import MataDevice.Lib.History
import MataDevice.Tracking.Adapter

/-!
# Network initiated requests

A network initiated request comes from the modem as a notification with a raw request, which has to
be given back to the modem with a response or freed. The adapter puts a request that the user is to
be asked about into one of two session slots, one for emergencies, tells a client its id and starts
a thread that waits for the user's response or for the time to run out.

The message task and the threads share the slots. Each of them is written as a program with one step
for every access of its own to what the other can change, a locked section being one step. The test
of a slot by a message and the locked section that follows are two steps; so are the three that a
thread does after its locked section. The writes that save a request are one step: all that a thread
can do to the slot between them is to clear what is written after that. Creating a thread succeeds.

A pointer to a raw request is the number of the request. What the threads and the message task do to
a slot is recorded in the history along with the calls, to say later what a request was answered
with.
-/

namespace MataDevice.Ni

open Tracking (LocationAPI LocationError)

/-! ## Data types -/

inductive GnssNiType
  | voice
  | supl
  | controlPlane
  | emergencySupl
  deriving DecidableEq, Repr

inductive GnssNiResponse
  /-- the value 0, before any response -/
  | unset
  | accept
  | deny
  | noResponse
  | ignore
  deriving DecidableEq, Repr

inductive LocInEmergency
  | unknown
  | set
  | notSet
  deriving DecidableEq, Repr

/-- A raw request, by its number. -/
abbrev Raw := ℕ

structure GnssNiNotification where
  type : GnssNiType
  options : ℕ
  timeout : ℕ
  deriving DecidableEq, Repr

def locNiNoResponseTime : ℕ := 20

/-- The seconds that the user is given to respond. -/
def GnssNiNotification.respTimeLeft (notify : GnssNiNotification) : ℕ :=
  (5 + if notify.timeout ≠ 0 then notify.timeout else locNiNoResponseTime) % 2 ^ 32

/-- The number of the bit `GNSS_NI_OPTIONS_PRIVACY_OVERRIDE_BIT`. -/
def privacyOverrideBit : ℕ := 2

/-- The number of the bit `GNSS_CONFIG_GPS_LOCK_NI`. -/
def gpsLockNiBit : ℕ := 1

structure NiSession where
  respTimeLeft : ℕ
  respRecvd : Bool
  rawRequest : Option Raw
  reqID : ℕ
  resp : GnssNiResponse
  deriving DecidableEq, Repr

def NiSession.zero : NiSession := ⟨0, false, none, 0, .unset⟩

inductive NiSlot
  | session
  | sessionEs
  deriving DecidableEq, Repr

structure NiData where
  session : NiSession
  sessionEs : NiSession
  reqIDCounter : ℕ

/-- Which callbacks a client has set, as far as these requests look at them. -/
structure NiCallbacks where
  responseCb : Bool
  gnssNiCb : Bool

structure GnssAdapter where
  mClientData : OrderedMap LocationAPI NiCallbacks
  mNiData : NiData
  mSupportNfwControl : Bool
  mAfwControlId : ℕ
  /-- what `mIsE911Session` returns, if it is set -/
  e911State : Bool
  /-- the fields of `ContextBase::mGps_conf` -/
  gpsLock : ℕ
  niSuplDenyOnNfwLocked : ℕ
  suplEs : ℕ
  cpMtlrEs : ℕ

namespace NiData

def get (d : NiData) : NiSlot → NiSession
  | .session => d.session
  | .sessionEs => d.sessionEs

def set (d : NiData) (slot : NiSlot) (x : NiSession) : NiData :=
  match slot with
  | .session => { d with session := x }
  | .sessionEs => { d with sessionEs := x }

variable (d : NiData) (slot : NiSlot) (x : NiSession)

@[simp] theorem get_set_self : (d.set slot x).get slot = x := by cases slot <;> rfl

theorem get_set_of_ne {slot slot' : NiSlot} (h : slot' ≠ slot) :
    (d.set slot x).get slot' = d.get slot' := by
  cases slot <;> cases slot' <;> first | rfl | exact absurd rfl h

@[simp] theorem reqIDCounter_set : (d.set slot x).reqIDCounter = d.reqIDCounter := by
  cases slot <;> rfl

end NiData

/-! ## The adapter -/

/-- What `MsgReportNiNotify` decides: to answer the modem at once, or to go on, with
`bInformNiAccept`. -/
inductive NiDecision
  | inform (response : GnssNiResponse)
  | requestNiNotify (bInformNiAccept : Bool)
  deriving DecidableEq, Repr

/-- What can be put into a slot for a request: the user's response for an id, or that it is ignored,
because the user has accepted the emergency request with an id or because one was accepted without
asking. -/
inductive Cause
  | response (id : ℕ)
  | acceptedId (id : ℕ)
  | accepted (raw : Raw)
  deriving DecidableEq, Repr

/-- What is recorded: calls of the modem and of clients, and accesses to the slots. -/
inductive Action
  | informNiResponse (response : GnssNiResponse) (raw : Raw)
  | free (raw : Raw)
  | responseCb (client : LocationAPI) (err : LocationError) (id : ℕ)
  | gnssNiCb (client : LocationAPI) (id : ℕ) (notify : GnssNiNotification)
  /-- A request is saved in a slot under an id, with the time it is given. -/
  | save (slot : NiSlot) (raw : Raw) (id timeLeft : ℕ)
  /-- The locked section of a message. -/
  | put (slot : NiSlot) (cause : Cause) (response : GnssNiResponse)
  /-- A thread has waited for this long. -/
  | timeOut (slot : NiSlot) (timeLeft : ℕ)
  /-- A thread takes the request out of its slot. -/
  | take (slot : NiSlot) (raw : Raw) (response : GnssNiResponse)
  deriving DecidableEq, Repr

namespace GnssAdapter

variable (a : GnssAdapter)

def isInEmergency (emergencyState : LocInEmergency) : Bool :=
  (emergencyState = .unknown && a.e911State) || emergencyState = .set

/-- `MsgReportNiNotify::proc`, up to the calls it decides to make. -/
def reportNiNotify (notify : GnssNiNotification) (emergencyState : LocInEmergency) : NiDecision :=
  if (a.mSupportNfwControl || a.mAfwControlId = 0) ∧
      (notify.type = .supl ∨ notify.type = .emergencySupl) ∧ !a.isInEmergency emergencyState ∧
      !notify.options.testBit privacyOverrideBit ∧ a.gpsLock.testBit gpsLockNiBit ∧
      a.niSuplDenyOnNfwLocked = 1 then
    .inform .deny
  else if notify.type = .emergencySupl then
    if a.isInEmergency emergencyState ∨ a.suplEs = 0 then .requestNiNotify true
    else .inform .deny
  else if notify.type = .controlPlane then
    if a.isInEmergency emergencyState ∧ a.cpMtlrEs = 1 then .inform .accept
    else .requestNiNotify false
  else .requestNiNotify false

/-- The client that is asked, the first one with `gnssNiCb`. -/
def niClient : Option LocationAPI :=
  (a.mClientData.entries.find? fun e ↦ e.2.gnssNiCb).map Prod.fst

def hasNiNotifyCallback (client : LocationAPI) : Bool :=
  (a.mClientData.find? client).any NiCallbacks.gnssNiCb

def reportResponse (client : LocationAPI) (err : LocationError) (id : ℕ) : List Action :=
  if (a.mClientData.find? client).any NiCallbacks.responseCb then [.responseCb client err id]
  else []

/-- The slot that a request is saved in, unless a request is in progress. -/
def freeSlot (type : GnssNiType) : Option NiSlot :=
  if type = .emergencySupl then
    if a.mNiData.sessionEs.rawRequest ≠ none then none else some .sessionEs
  else if a.mNiData.session.rawRequest ≠ none ∨ a.mNiData.sessionEs.rawRequest ≠ none then none
  else some .session

/-- A slot has a request that is known to the clients under an id. -/
def IsActive (slot : NiSlot) (id : ℕ) : Prop :=
  id = (a.mNiData.get slot).reqID ∧ (a.mNiData.get slot).rawRequest ≠ none

instance (slot : NiSlot) (id : ℕ) : Decidable (a.IsActive slot id) :=
  inferInstanceAs (Decidable (_ ∧ _))

/-- `++mNiData.reqIDCounter`. -/
def nextReqID : ℕ := (a.mNiData.reqIDCounter + 1) % 2 ^ 32

/-- Change a slot. -/
def modifySlot (slot : NiSlot) (f : NiSession → NiSession) : GnssAdapter :=
  { a with mNiData := a.mNiData.set slot (f (a.mNiData.get slot)) }

/-- Save a request in a slot. -/
def save (slot : NiSlot) (raw : Raw) (notify : GnssNiNotification) : GnssAdapter :=
  { a with mNiData :=
      { a.mNiData.set slot { a.mNiData.get slot with
          rawRequest := some raw
          reqID := a.nextReqID
          respTimeLeft := notify.respTimeLeft } with
        reqIDCounter := a.nextReqID } }

/-- The locked section of a message. -/
def putResponse (slot : NiSlot) (response : GnssNiResponse) : GnssAdapter :=
  a.modifySlot slot fun x ↦ { x with resp := response, respRecvd := true }

/-- The end of a thread's locked section: the slot is emptied, and the request is freed if it is to
be ignored. The last component is what is left to send. -/
def takeRequest (slot : NiSlot) : GnssAdapter × List Action × Option (GnssNiResponse × Raw) :=
  let x := a.mNiData.get slot
  let a := a.modifySlot slot fun x ↦ { x with respRecvd := false, rawRequest := none }
  match x.rawRequest with
  | none => (a, [], none)
  | some raw =>
    if x.resp ≠ .ignore then (a, [.take slot raw x.resp], some (x.resp, raw))
    else (a, [.take slot raw x.resp, .free raw], none)

end GnssAdapter

/-! ## The message task and the threads -/

inductive LocMsg
  | reportNiNotify (notify : GnssNiNotification) (data : Raw) (emergencyState : LocInEmergency)
  /-- `gnssNiResponseCommand` of a client -/
  | gnssNiResponse (client : LocationAPI) (id : ℕ) (response : GnssNiResponse)
  /-- `gnssNiResponseCommand` of a thread -/
  | informNiResponse (response : GnssNiResponse) (rawRequest : Raw)
  deriving DecidableEq, Repr

/-- A response for a request that was found in a slot. -/
structure Reply where
  slot : NiSlot
  client : LocationAPI
  id : ℕ
  response : GnssNiResponse
  deriving DecidableEq, Repr

/-- Where the message task is in a message. -/
inductive TaskStep
  | idle
  /-- before the test of the slot that is not for emergencies -/
  | testSession (client : LocationAPI) (id : ℕ) (response : GnssNiResponse)
  /-- before the test whether there is a request to be ignored, and before ignoring it -/
  | testIgnore (cause : Cause) (after : Option Reply)
  | ignore (cause : Cause) (after : Option Reply)
  | reply (r : Reply)
  deriving DecidableEq, Repr

/-- What the message task does when nothing is left to be ignored. -/
def TaskStep.next : Option Reply → TaskStep
  | none => .idle
  | some r => .reply r

/-- Where a thread is in `niThreadProc`. -/
inductive ThreadStep
  | created
  /-- It waits for so many seconds. -/
  | waiting (timeLeft : ℕ)
  | resetRespTimeLeft (send : Option (GnssNiResponse × Raw))
  | resetReqID (send : Option (GnssNiResponse × Raw))
  | send (send : Option (GnssNiResponse × Raw))
  | exited
  deriving DecidableEq, Repr

structure NiThread where
  slot : NiSlot
  pc : ThreadStep
  deriving DecidableEq, Repr

structure NiSystem where
  adapter : GnssAdapter
  queue : List LocMsg
  task : TaskStep
  threads : List NiThread
  /-- How many raw requests there have been. -/
  requests : ℕ

inductive Event
  | requestNiNotifyEvent (notify : GnssNiNotification) (emergencyState : LocInEmergency)
  | gnssNiResponseCommand (client : LocationAPI) (id : ℕ) (response : GnssNiResponse)
  /-- The message task begins with the next message. -/
  | proc
  /-- The message task goes on with its message. -/
  | resume
  /-- A thread does its next step; it wakes up if a response has been received. -/
  | run (i : ℕ)
  /-- A thread has waited for its time. -/
  | timeOut (i : ℕ)
  /-- Clients and settings change; the sessions do not. -/
  | configure (config : GnssAdapter)

namespace NiSystem

variable (s : NiSystem)

/-- `requestNiNotify`, where a request is new for the adapter. -/
def requestNiNotify (notify : GnssNiNotification) (data : Raw) (bInformNiAccept : Bool) :
    NiSystem × List Action :=
  match s.adapter.niClient with
  | none =>
    if notify.type = .emergencySupl ∧ bInformNiAccept then
      ({ s with task := .testIgnore (.accepted data) none }, [.informNiResponse .accept data])
    else (s, [])
  | some client =>
    match s.adapter.freeSlot notify.type with
    | none => (s, [.free data])
    | some slot =>
      ({ s with
          adapter := s.adapter.save slot data notify
          threads := s.threads ++ [⟨slot, .created⟩] },
        [.save slot data s.adapter.nextReqID notify.respTimeLeft,
          .gnssNiCb client s.adapter.nextReqID notify])

def proc : LocMsg → NiSystem × List Action
  | .reportNiNotify notify data emergencyState =>
    match s.adapter.reportNiNotify notify emergencyState with
    | .inform response => (s, [.informNiResponse response data])
    | .requestNiNotify bInformNiAccept => s.requestNiNotify notify data bInformNiAccept
  | .gnssNiResponse client id response =>
    if !s.adapter.hasNiNotifyCallback client then
      (s, s.adapter.reportResponse client .idUnknown id)
    else if s.adapter.IsActive .sessionEs id then
      let r : Reply := ⟨.sessionEs, client, id, response⟩
      -- ignore any SUPL NI non-Es session if a SUPL NI ES is accepted
      ({ s with task :=
          if response = .accept then .testIgnore (.acceptedId id) (some r) else .reply r }, [])
    else ({ s with task := .testSession client id response }, [])
  | .informNiResponse response rawRequest => (s, [.informNiResponse response rawRequest])

def resume : TaskStep → Option (NiSystem × List Action)
  | .idle => none
  | .testSession client id response =>
    if s.adapter.IsActive .session id then
      some ({ s with task := .reply ⟨.session, client, id, response⟩ }, [])
    else some ({ s with task := .idle }, s.adapter.reportResponse client .idUnknown id)
  | .testIgnore cause after =>
    some ({ s with task :=
      if s.adapter.mNiData.session.rawRequest ≠ none then .ignore cause after else .next after }, [])
  | .ignore cause after =>
    some ({ s with
      adapter := s.adapter.putResponse .session .ignore
      task := .next after }, [.put .session cause .ignore])
  | .reply r =>
    some ({ s with
        adapter := s.adapter.putResponse r.slot r.response
        task := .idle },
      .put r.slot (.response r.id) r.response ::
        s.adapter.reportResponse r.client .success r.id)

/-- The thread `i` has come to some step. -/
def setThread (i : ℕ) (slot : NiSlot) (pc : ThreadStep) : NiSystem :=
  { s with threads := s.threads.set i ⟨slot, pc⟩ }

/-- A thread leaves its loop. -/
def leaveLoop (i : ℕ) (slot : NiSlot) : NiSystem × List Action :=
  let (a, actions, send) := s.adapter.takeRequest slot
  ({ s with adapter := a }.setThread i slot (.resetRespTimeLeft send), actions)

def run (i : ℕ) (slot : NiSlot) : ThreadStep → Option (NiSystem × List Action)
  | .created =>
    if (s.adapter.mNiData.get slot).respRecvd then some (s.leaveLoop i slot)
    else some (s.setThread i slot (.waiting (s.adapter.mNiData.get slot).respTimeLeft), [])
  | .waiting _ =>
    if (s.adapter.mNiData.get slot).respRecvd then some (s.leaveLoop i slot) else none
  | .resetRespTimeLeft send =>
    some ({ s with adapter := s.adapter.modifySlot slot fun x ↦ { x with respTimeLeft := 0 } }
      |>.setThread i slot (.resetReqID send), [])
  | .resetReqID send =>
    some ({ s with adapter := s.adapter.modifySlot slot fun x ↦ { x with reqID := 0 } }
      |>.setThread i slot (.send send), [])
  | .send send =>
    some ({ s with
      queue := s.queue ++ send.toList.map fun (resp, raw) ↦ LocMsg.informNiResponse resp raw }
      |>.setThread i slot .exited, [])
  | .exited => none

/-- The time of a thread runs out. -/
def timeOut (i : ℕ) (slot : NiSlot) (timeLeft : ℕ) : NiSystem × List Action :=
  let a := s.adapter.modifySlot slot fun x ↦ { x with resp := .noResponse }
  let result := { s with adapter := a }.leaveLoop i slot
  (result.1, .timeOut slot timeLeft :: result.2)

def step : Event → Option (NiSystem × List Action)
  | .requestNiNotifyEvent notify emergencyState =>
    some ({ s with
      queue := s.queue ++ [.reportNiNotify notify s.requests emergencyState]
      requests := s.requests + 1 }, [])
  | .gnssNiResponseCommand client id response =>
    some ({ s with queue := s.queue ++ [.gnssNiResponse client id response] }, [])
  | .proc =>
    match s.task, s.queue with
    | .idle, msg :: queue => some ({ s with queue := queue }.proc msg)
    | _, _ => none
  | .resume => s.resume s.task
  | .run i => (s.threads[i]?).bind fun thread ↦ s.run i thread.slot thread.pc
  | .timeOut i =>
    (s.threads[i]?).bind fun thread ↦
      match thread.pc with
      | .waiting timeLeft => some (s.timeOut i thread.slot timeLeft)
      | _ => none
  | .configure config =>
    some ({ s with adapter := { config with mNiData := s.adapter.mNiData } }, [])

def initial (adapter : GnssAdapter) : NiSystem where
  adapter := { adapter with mNiData := ⟨.zero, .zero, 0⟩ }
  queue := []
  task := .idle
  threads := []
  requests := 0

/-- All messages are processed and all threads have ended. -/
def Quiet : Prop := s.queue = [] ∧ s.task = .idle ∧ ∀ thread ∈ s.threads, thread.pc = .exited

instance : Decidable s.Quiet := inferInstanceAs (Decidable (_ ∧ _ ∧ _))

end NiSystem

end MataDevice.Ni
