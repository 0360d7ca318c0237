import Mathlib.Tactic

/-!
# The AGPS state machine

`AgpsStateMachine` shares one data connection among the subscribers that asked for it.

```text
RELEASED  --subscribe / request-->  PENDING  --granted-->  ACQUIRED
PENDING, ACQUIRED  --last active subscriber leaves / release-->  RELEASING
RELEASING  --released, denied-->  PENDING / request   or   RELEASED
PENDING  --denied-->  RELEASED          ACQUIRED  --released-->  RELEASED
```

A subscriber that leaves stays in the list, inactive, until the connection is closed. Each function
returns the machine and the calls it made, in their order: to the adapter through the two ATL
callbacks and to the framework through `mFrameworkStatusV4Cb`. The member `mCurrentSubscriber` is
the argument of the events that read it. An unsubscribe event points it into the list, so that it is
given by its handle.
-/

namespace MataDevice.Agps

/-- `AgpsState`. No machine is ever in `AGPS_STATE_INVALID`. -/
inductive AgpsState
  | released
  | pending
  | acquired
  | releasing
  deriving DecidableEq, Repr

/-- `AGpsExtType`, an `int8_t`. -/
abbrev AGpsExtType := Int8

def locAgpsTypeInvalid : AGpsExtType := -1

def locAgpsTypeSupl : AGpsExtType := 1

def locAgpsTypeWwanAny : AGpsExtType := 3

def locAgpsTypeSuplEs : AGpsExtType := 5

/-- `AGpsBearerType`, an `int16_t`. -/
abbrev AGpsBearerType := Int16

def agpsApnBearerInvalid : AGpsBearerType := 0

/-- `LocApnTypeMask`. -/
abbrev LocApnTypeMask := UInt32

def locApnTypeMaskSupl : LocApnTypeMask := 0x10

def locApnTypeMaskEmergency : LocApnTypeMask := 0x200

def maxApnLen : ℕ := 100

structure AgpsSubscriber where
  connHandle : ℤ
  waitForCloseComplete : Bool
  isInactive : Bool
  apnTypeMask : LocApnTypeMask
  deriving DecidableEq, Repr

/-- The calls a machine makes. -/
inductive Call
  /-- `mAtlOpenStatusCb`. -/
  | openStatus (connHandle : ℤ) (isSuccess : Bool) (apn : Option (List UInt8)) (apnLen : ℕ)
    (bearer : AGpsBearerType) (agpsType : AGpsExtType) (apnTypeMask : LocApnTypeMask)
  /-- `mAtlCloseStatusCb`. -/
  | closeStatus (connHandle : ℤ) (isSuccess : Bool)
  /-- `mFrameworkStatusV4Cb` with `LOC_GPS_REQUEST_AGPS_DATA_CONN`. -/
  | requestDataConn (agpsType : AGpsExtType) (apnTypeMask : LocApnTypeMask)
  /-- `mFrameworkStatusV4Cb` with `LOC_GPS_RELEASE_AGPS_DATA_CONN`. -/
  | releaseDataConn (agpsType : AGpsExtType) (apnTypeMask : LocApnTypeMask)
  deriving DecidableEq, Repr

structure AgpsStateMachine where
  subscriberList : List AgpsSubscriber
  state : AgpsState
  agpsType : AGpsExtType
  apnTypeMask : LocApnTypeMask
  apn : Option (List UInt8)
  apnLen : ℕ
  bearer : AGpsBearerType
  deriving DecidableEq, Repr

/-- `AgpsEvent`, with the subscriber that the event is about. -/
inductive AgpsEvent
  | subscribe (subscriber : AgpsSubscriber)
  | unsubscribe (connHandle : ℤ)
  | granted
  | released
  | denied
  deriving DecidableEq, Repr

/-- What a subscriber is notified of: `notifyEventToSubscriber` is only ever called for these. -/
inductive Notice
  | granted
  | denied
  | unsubscribe
  | released
  deriving DecidableEq, Repr

/-- `AgpsNotificationType`. -/
inductive AgpsNotificationType
  | allSubscribers
  | inactiveSubscribers
  | activeSubscribers
  deriving DecidableEq, Repr

def AgpsNotificationType.concerns : AgpsNotificationType → AgpsSubscriber → Bool
  | .allSubscribers, _ => true
  | .inactiveSubscribers, s => s.isInactive
  | .activeSubscribers, s => !s.isInactive

namespace AgpsStateMachine

/-- The constructor. It leaves `mApnTypeMask` uninitialised. -/
def create (agpsType : AGpsExtType) (apnTypeMask : LocApnTypeMask) : AgpsStateMachine where
  subscriberList := []
  state := .released
  agpsType := agpsType
  apnTypeMask := apnTypeMask
  apn := none
  apnLen := 0
  bearer := agpsApnBearerInvalid

variable (sm : AgpsStateMachine)

def setType (agpsType : AGpsExtType) : AgpsStateMachine := { sm with agpsType := agpsType }

def setApnTypeMask (mask : LocApnTypeMask) : AgpsStateMachine := { sm with apnTypeMask := mask }

def setBearer (bearer : AGpsBearerType) : AgpsStateMachine := { sm with bearer := bearer }

/-- `setAPN`, on a C string given by its characters, or `none` for a null pointer. -/
def setAPN (apn : Option (List UInt8)) (len : ℕ) : AgpsStateMachine :=
  match apn with
  | none => { sm with apn := none, apnLen := 0 }
  | some name =>
    if len > maxApnLen ∨ name.length ≠ len then { sm with apn := none, apnLen := 0 }
    else { sm with apn := some name, apnLen := len }

def transitionState (newState : AgpsState) : AgpsStateMachine := { sm with state := newState }

def anyActiveSubscribers : Bool := sm.subscriberList.any fun s ↦ !s.isInactive

def getSubscriber (connHandle : ℤ) : Option AgpsSubscriber :=
  sm.subscriberList.find? fun s ↦ s.connHandle == connHandle

/-- `addSubscriber`: a handle that is listed already is left as it is. -/
def addSubscriber (subscriberToAdd : AgpsSubscriber) : AgpsStateMachine :=
  if sm.subscriberList.any fun s ↦ s.connHandle == subscriberToAdd.connHandle then sm
  else { sm with subscriberList := sm.subscriberList ++ [subscriberToAdd] }

def deleteSubscriber (connHandle : ℤ) : AgpsStateMachine :=
  { sm with subscriberList := sm.subscriberList.filter fun s ↦ s.connHandle != connHandle }

/-- `mCurrentSubscriber->mIsInactive = true`, where `mCurrentSubscriber` is what `getSubscriber`
found. -/
def deactivate (connHandle : ℤ) : AgpsStateMachine :=
  { sm with subscriberList := sm.subscriberList.replaceF fun s ↦
      if s.connHandle = connHandle then some { s with isInactive := true } else none }

def dropAllSubscribers : AgpsStateMachine := { sm with subscriberList := [] }

/-- `requestOrReleaseDataConn`. -/
def dataConnCall (request : Bool) : Call :=
  if request then .requestDataConn sm.agpsType sm.apnTypeMask
  else .releaseDataConn sm.agpsType sm.apnTypeMask

/-- The call `notifyEventToSubscriber` makes. -/
def notifyCall (notice : Notice) (connHandle : ℤ) : Call :=
  match notice with
  | .granted => .openStatus connHandle true sm.apn sm.apnLen sm.bearer sm.agpsType sm.apnTypeMask
  | .denied => .openStatus connHandle false sm.apn sm.apnLen sm.bearer sm.agpsType sm.apnTypeMask
  | .unsubscribe | .released => .closeStatus connHandle true

/-- `notifyAllSubscribers`: everyone concerned is notified and, if asked for, erased. -/
def notifyAllSubscribers (notice : Notice) (deleteSubscriberPostNotify : Bool)
    (notificationType : AgpsNotificationType) : AgpsStateMachine × List Call :=
  ({ sm with
      subscriberList :=
        if deleteSubscriberPostNotify then
          sm.subscriberList.filter fun s ↦ !notificationType.concerns s
        else sm.subscriberList },
    (sm.subscriberList.filter notificationType.concerns).map
      fun s ↦ sm.notifyCall notice s.connHandle)

def processAgpsEventSubscribe (current : AgpsSubscriber) : AgpsStateMachine × List Call :=
  match sm.state with
  | .released => ((sm.addSubscriber current).transitionState .pending, [sm.dataConnCall true])
  | .pending => (sm.addSubscriber current, [])
  | .acquired => (sm.addSubscriber current, [sm.notifyCall .granted current.connHandle])
  | .releasing => (sm.addSubscriber current, [])

/-- What both branches of an unsubscribe event do with a listed subscriber. -/
def leave (connHandle : ℤ) : AgpsStateMachine × List Call :=
  match sm.getSubscriber connHandle with
  | none => (sm, [])
  | some current =>
    if current.waitForCloseComplete then (sm.deactivate connHandle, [])
    else (sm.deleteSubscriber connHandle, [sm.notifyCall .unsubscribe connHandle])

/-- The end of an unsubscribe event while the connection is requested or there: once nobody is left,
or nobody active, the connection is released. -/
def releaseUnwanted (left : AgpsStateMachine × List Call) : AgpsStateMachine × List Call :=
  if left.1.subscriberList.isEmpty then
    (left.1.transitionState .released, left.2 ++ [left.1.dataConnCall false])
  else if !left.1.anyActiveSubscribers then
    (left.1.transitionState .releasing, left.2 ++ [left.1.dataConnCall false])
  else left

def processAgpsEventUnsubscribe (connHandle : ℤ) : AgpsStateMachine × List Call :=
  match sm.state with
  | .released => (sm, [sm.notifyCall .unsubscribe connHandle])
  | .pending | .acquired => releaseUnwanted (sm.leave connHandle)
  | .releasing =>
    let left := sm.leave connHandle
    -- the request for releasing the data connection has been sent already
    if left.1.subscriberList.isEmpty then (left.1.transitionState .released, left.2) else left

def processAgpsEventGranted : AgpsStateMachine × List Call :=
  match sm.state with
  | .pending =>
    (sm.transitionState .acquired).notifyAllSubscribers .granted false .activeSubscribers
  | .released | .acquired | .releasing => (sm, [])

/-- The end of a release: the inactive subscribers are told and leave, and if others came in the
meantime the connection is requested again. -/
def finishRelease : AgpsStateMachine × List Call :=
  let notified := sm.notifyAllSubscribers .released true .inactiveSubscribers
  if notified.1.anyActiveSubscribers then
    (notified.1.transitionState .pending, notified.2 ++ [notified.1.dataConnCall true])
  else (notified.1.transitionState .released, notified.2)

def processAgpsEventReleased : AgpsStateMachine × List Call :=
  match sm.state with
  | .acquired => (sm.transitionState .released).notifyAllSubscribers .released true .allSubscribers
  | .releasing => sm.finishRelease
  | .released | .pending => (sm, [])

def processAgpsEventDenied : AgpsStateMachine × List Call :=
  match sm.state with
  | .releasing => sm.finishRelease
  | .pending => (sm.transitionState .released).notifyAllSubscribers .denied true .allSubscribers
  | .released | .acquired => (sm, [])

def processAgpsEvent : AgpsEvent → AgpsStateMachine × List Call
  | .subscribe subscriber => sm.processAgpsEventSubscribe subscriber
  | .unsubscribe connHandle => sm.processAgpsEventUnsubscribe connHandle
  | .granted => sm.processAgpsEventGranted
  | .released => sm.processAgpsEventReleased
  | .denied => sm.processAgpsEventDenied

end AgpsStateMachine

end MataDevice.Agps
