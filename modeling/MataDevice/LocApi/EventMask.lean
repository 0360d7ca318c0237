import MataDevice.Lib.History

/-!
# Events registered at the modem

`LocApiV02` registers the events its adapters ask for at the modem. Most of them are of use only in
a session, and NMEA sentences only while the engine runs, so the mask it registers is made of the
mask of the adapters, of whether a session runs and of the engine state last reported, and it is
made again whenever one of them changes. Only a stop while the engine is on changes nothing yet: it
waits for the engine to report that it is off.

The client is closed and opened again when the modem restarts. The engine is off then, but `close`
keeps the engine state reported before, and it is that state that the masks are made of until the
next report.
-/

namespace MataDevice.EventMask

/-! ## Masks -/

/-- `loc_api_adapter_event_index`, the bits of a mask of the adapters -/
inductive AdapterEvent
  | reportPosition
  | reportSatellite
  | reportNmea1hz
  | reportNmeaPosition
  | requestNiNotifyVerify
  | requestAssistanceData
  | requestLocationServer
  | reportIoctl
  | reportStatus
  | requestWifi
  | sensorStatus
  | requestTimeSync
  | reportSpi
  | reportNiGeofence
  | geofenceGenAlert
  | reportGenfenceBreach
  | pedometerCtrl
  | motionCtrl
  | requestWifiApData
  | batchFull
  | batchedPositionReport
  | batchedGenfenceBreachReport
  | gnssMeasurementReport
  | gnssSvPolynomialReport
  | gdtUploadBeginReq
  | gdtUploadEndReq
  | gnssMeasurement
  | requestTimezone
  | reportGenfenceDwellReport
  | requestSrnData
  | requestPositionInjection
  | batchStatus
  | fdclServiceReq
  | reportUnpropagatedPosition
  | bsObsDataServiceReq
  | gnssSvEphemerisReport
  | locSystemInfo
  | gnssNhzMeasurementReport
  | eventReportInfo
  | latencyInformationReport
  deriving DecidableEq, Repr

/-- `LOC_API_ADAPTER_BIT_...` -/
def AdapterEvent.bit (e : AdapterEvent) : UInt64 := 1 <<< UInt64.ofNat e.ctorIdx

/-! `QMI_LOC_EVENT_MASK_..._V02` -/

namespace QmiLocEventMask

def positionReport : UInt64 := 0x00000001
def gnssSvInfo : UInt64 := 0x00000002
def nmea : UInt64 := 0x00000004
def niNotifyVerifyReq : UInt64 := 0x00000008
def injectTimeReq : UInt64 := 0x00000010
def injectPredictedOrbitsReq : UInt64 := 0x00000020
def injectPositionReq : UInt64 := 0x00000040
def engineState : UInt64 := 0x00000080
def wifiReq : UInt64 := 0x00000200
def sensorStreamingReadyStatus : UInt64 := 0x00000400
def timeSyncReq : UInt64 := 0x00000800
def setSpiStreamingReport : UInt64 := 0x00001000
def locationServerConnectionReq : UInt64 := 0x00002000
def niGeofenceNotification : UInt64 := 0x00004000
def geofenceGenAlert : UInt64 := 0x00008000
def geofenceBreachNotification : UInt64 := 0x00010000
def pedometerControl : UInt64 := 0x00020000
def motionDataControl : UInt64 := 0x00040000
def batchFullNotification : UInt64 := 0x00080000
def liveBatchedPositionReport : UInt64 := 0x00100000
def injectWifiApDataReq : UInt64 := 0x00200000
def geofenceBatchBreachNotification : UInt64 := 0x00400000
def gnssMeasurementReport : UInt64 := 0x01000000
def gnssSvPolynomialReport : UInt64 := 0x02000000
def gdtUploadBeginReq : UInt64 := 0x08000000
def gdtUploadEndReq : UInt64 := 0x10000000
def geofenceBatchDwellNotification : UInt64 := 0x20000000
def getTimeZoneReq : UInt64 := 0x40000000
def batchingStatus : UInt64 := 0x80000000
def injectSrnApDataReq : UInt64 := 0x200000000
def fdclServiceReq : UInt64 := 0x800000000
def unpropagatedPositionReport : UInt64 := 0x4000000000
def bsObsDataServiceReq : UInt64 := 0x8000000000
def ephemerisReport : UInt64 := 0x10000000000
def nextLsInfoReport : UInt64 := 0x20000000000
def gnssNhzMeasurementReport : UInt64 := 0x80000000000
def gnssEventReport : UInt64 := 0x100000000000
def latencyInformationReport : UInt64 := 0x800000000000

end QmiLocEventMask

open QmiLocEventMask

/-- What is registered for an event of the adapters. The breaches of a batch are reported one by one
when the modem does not support them. -/
def qmiEvents (batchedGenfenceBreach : Bool) : AdapterEvent → UInt64
  | .reportPosition => positionReport
  | .reportUnpropagatedPosition => unpropagatedPositionReport
  | .reportSatellite => gnssSvInfo
  -- NMEA is registered when the engine turns on
  | .reportNmea1hz | .reportNmeaPosition => nmea ||| engineState
  | .requestNiNotifyVerify => niNotifyVerifyReq
  | .requestAssistanceData => injectPredictedOrbitsReq ||| injectTimeReq
  | .requestPositionInjection => injectPositionReq
  | .reportStatus => engineState
  | .requestLocationServer => locationServerConnectionReq
  | .requestWifi => wifiReq
  | .sensorStatus => sensorStreamingReadyStatus
  | .requestTimeSync => timeSyncReq
  | .reportSpi => setSpiStreamingReport
  | .reportNiGeofence => niGeofenceNotification
  | .geofenceGenAlert => QmiLocEventMask.geofenceGenAlert
  | .reportGenfenceBreach => geofenceBreachNotification
  | .batchedGenfenceBreachReport =>
    if batchedGenfenceBreach then geofenceBatchBreachNotification else geofenceBreachNotification
  | .pedometerCtrl => pedometerControl
  | .reportGenfenceDwellReport => geofenceBatchDwellNotification
  | .motionCtrl => motionDataControl
  | .requestWifiApData => injectWifiApDataReq
  | .batchFull => batchFullNotification
  | .batchStatus => batchingStatus
  | .batchedPositionReport => liveBatchedPositionReport
  | .gnssMeasurementReport => QmiLocEventMask.gnssMeasurementReport
  | .gnssSvPolynomialReport => QmiLocEventMask.gnssSvPolynomialReport
  | .gnssSvEphemerisReport => ephemerisReport
  | .gdtUploadBeginReq => QmiLocEventMask.gdtUploadBeginReq
  | .gdtUploadEndReq => QmiLocEventMask.gdtUploadEndReq
  | .gnssMeasurement => QmiLocEventMask.gnssMeasurementReport
  | .requestTimezone => getTimeZoneReq
  | .requestSrnData => injectSrnApDataReq
  | .fdclServiceReq => QmiLocEventMask.fdclServiceReq
  | .bsObsDataServiceReq => QmiLocEventMask.bsObsDataServiceReq
  | .locSystemInfo => nextLsInfoReport
  | .eventReportInfo => gnssEventReport
  | .gnssNhzMeasurementReport => QmiLocEventMask.gnssNhzMeasurementReport
  | .latencyInformationReport => QmiLocEventMask.latencyInformationReport
  | .reportIoctl => 0

def AdapterEvent.all : List AdapterEvent :=
  [.reportPosition, .reportUnpropagatedPosition, .reportSatellite, .reportNmea1hz,
    .reportNmeaPosition, .requestNiNotifyVerify, .requestAssistanceData, .requestPositionInjection,
    .reportStatus, .requestLocationServer, .requestWifi, .sensorStatus, .requestTimeSync,
    .reportSpi, .reportNiGeofence, .geofenceGenAlert, .reportGenfenceBreach,
    .batchedGenfenceBreachReport, .pedometerCtrl, .reportGenfenceDwellReport, .motionCtrl,
    .requestWifiApData, .batchFull, .batchStatus, .batchedPositionReport, .gnssMeasurementReport,
    .gnssSvPolynomialReport, .gnssSvEphemerisReport, .gdtUploadBeginReq, .gdtUploadEndReq,
    .gnssMeasurement, .requestTimezone, .requestSrnData, .fdclServiceReq, .bsObsDataServiceReq,
    .locSystemInfo, .eventReportInfo, .gnssNhzMeasurementReport, .latencyInformationReport]

def convertMask (batchedGenfenceBreach : Bool) (mask : UInt64) : UInt64 :=
  AdapterEvent.all.foldl
    (fun eventMask e ↦
      if mask &&& e.bit != 0 then eventMask ||| qmiEvents batchedGenfenceBreach e else eventMask)
    0

/-- The events that are registered only in a session. -/
def sessionEvents : UInt64 :=
  positionReport ||| unpropagatedPositionReport ||| gnssSvInfo ||| nmea ||| engineState |||
    gnssMeasurementReport ||| gnssNhzMeasurementReport ||| gnssSvPolynomialReport |||
    ephemerisReport ||| gnssEventReport ||| nextLsInfoReport ||| latencyInformationReport

/-! ## The client of the modem -/

/-- The calls to the modem that the registration depends on. -/
inductive QmiCall
  | locClientOpen
  | locClientClose
  | locClientRegisterEventMask (qmiMask : UInt64)
  deriving DecidableEq, Repr

structure LocApiV02 where
  mMask : UInt64
  mExcludedMask : UInt64
  mQmiMask : UInt64
  mInSession : Bool
  mEngineOn : Bool
  /-- Whether `clientHandle` is valid. -/
  clientOpen : Bool
  /-- `sSupportedMsgMask`, as far as it matters here, once it is known -/
  batchedGenfenceBreach : Option Bool
  deriving DecidableEq, Repr

inductive Event
  /-- With whether the modem supports the breaches of a batch, if it is asked. -/
  | open (mask : UInt64) (batchedGenfenceBreach : Bool)
  | close
  | startTimeBasedTracking
  | stopTimeBasedTracking
  | engineState (on : Bool)
  deriving DecidableEq, Repr

namespace LocApiV02

variable (s : LocApiV02)

def convertMask (mask : UInt64) : UInt64 :=
  EventMask.convertMask (s.batchedGenfenceBreach.getD false) mask

def adjustMaskIfNoSessionOrEngineOff (qmiMask : UInt64) : UInt64 :=
  if !s.mInSession then qmiMask &&& ~~~sessionEvents
  else if !s.mEngineOn then qmiMask &&& ~~~nmea
  else qmiMask

def registerEventMask (adapterMask : UInt64) : LocApiV02 × List QmiCall :=
  let qmiMask := s.adjustMaskIfNoSessionOrEngineOff (s.convertMask adapterMask)
  if qmiMask ≠ s.mQmiMask then
    ({ s with mQmiMask := qmiMask, mMask := adapterMask }, [.locClientRegisterEventMask qmiMask])
  else ({ s with mMask := adapterMask }, [])

def open_ (mask : UInt64) (batchedGenfenceBreach : Bool) : LocApiV02 × List QmiCall :=
  let newMask := mask &&& ~~~s.mExcludedMask
  if s.clientOpen then s.registerEventMask newMask
  else
    -- the capabilities of the modem are kept from the first time on
    let s :=
      { s with
        clientOpen := true
        batchedGenfenceBreach := s.batchedGenfenceBreach.or (some batchedGenfenceBreach) }
    let (s, calls) := s.registerEventMask newMask
    (s, .locClientOpen :: calls)

def close : LocApiV02 × List QmiCall :=
  ({ s with mMask := 0, mQmiMask := 0, mInSession := false, clientOpen := false },
    if s.clientOpen then [.locClientClose] else [])

def startTimeBasedTracking : LocApiV02 × List QmiCall :=
  let s := { s with mInSession := true }
  s.registerEventMask s.mMask

def stopTimeBasedTracking : LocApiV02 × List QmiCall :=
  let s := { s with mInSession := false }
  -- when the engine is on, the events are deregistered when it reports to be off
  if !s.mEngineOn then s.registerEventMask s.mMask else (s, [])

/-- `MsgUpdateEngineState` -/
def updateEngineState (on : Bool) : LocApiV02 × List QmiCall :=
  let s := { s with mEngineOn := on }
  s.registerEventMask s.mMask

def proc : Event → LocApiV02 × List QmiCall
  | .open mask batchedGenfenceBreach => s.open_ mask batchedGenfenceBreach
  | .close => s.close
  | .startTimeBasedTracking => s.startTimeBasedTracking
  | .stopTimeBasedTracking => s.stopTimeBasedTracking
  | .engineState on => s.updateEngineState on

def step (e : Event) : Option (LocApiV02 × List QmiCall) := some (s.proc e)

def init (mExcludedMask : UInt64) : LocApiV02 :=
  ⟨0, mExcludedMask, 0, false, false, false, none⟩

end LocApiV02

/-! ## What has been processed -/

/-- The events that are registered at the modem. -/
def registered (hist : List (Item Event QmiCall)) : UInt64 :=
  (latest (fun
    | .out (.locClientRegisterEventMask qmiMask) => some qmiMask
    | .out .locClientOpen | .out .locClientClose => some 0
    | .event _ => none) hist).getD 0

def sessionRuns (hist : List (Item Event QmiCall)) : Bool :=
  (latest (fun
    | .event .startTimeBasedTracking => some true
    | .event .stopTimeBasedTracking | .event .close => some false
    | _ => none) hist).getD false

/-- Whether the engine has reported to be on since the client was opened, where `everyOpen` says
whether an `open` of a client that is open counts too. -/
def engineOn (everyOpen : Bool) (hist : List (Item Event QmiCall)) : Bool :=
  (latest (fun
    | .event (.engineState on) => some on
    | .event (.open _ _) => if everyOpen then some false else none
    | .out .locClientOpen => some false
    | _ => none) hist).getD false

/-- What is to be registered in a session, and without one while the engine is off. -/
structure Lawful (everyOpen : Bool) (hist : List (Item Event QmiCall)) (s : LocApiV02) : Prop where
  session : sessionRuns hist = true → registered hist =
    if engineOn everyOpen hist then s.convertMask s.mMask else s.convertMask s.mMask &&& ~~~nmea
  idle : sessionRuns hist = false → engineOn everyOpen hist = false →
    registered hist &&& sessionEvents = 0

/-- No `open` after which the engine counts as off comes while the state kept says on. -/
def OpensOff (everyOpen : Bool) (s : LocApiV02) (e : Event) : Prop :=
  match e with
  | .open _ _ => everyOpen = true ∨ s.clientOpen = false → s.mEngineOn = false
  | _ => True

instance (everyOpen : Bool) (s : LocApiV02) (e : Event) : Decidable (OpensOff everyOpen s e) :=
  match e with
  | .open _ _ => inferInstanceAs (Decidable (_ ∨ _ → _))
  | .close | .startTimeBasedTracking | .stopTimeBasedTracking | .engineState _ =>
    inferInstanceAs (Decidable True)

section History

variable {everyOpen : Bool} {hist : List (Item Event QmiCall)} {s : LocApiV02} {e : Event}

theorem sessionRuns_append_event :
    sessionRuns (hist ++ [.event e]) =
      match e with
      | .startTimeBasedTracking => true
      | .stopTimeBasedTracking | .close => false
      | .open _ _ | .engineState _ => sessionRuns hist := by
  rw [sessionRuns, latest_concat]
  cases e <;> rfl

theorem sessionRuns_append_call (call : QmiCall) :
    sessionRuns (hist ++ [.out call]) = sessionRuns hist := by
  rw [sessionRuns, latest_concat]
  rfl

theorem sessionRuns_append_calls (calls : List QmiCall) :
    sessionRuns (hist ++ calls.map .out) = sessionRuns hist := by
  rw [sessionRuns, latest_append_of_none]
  · rfl
  · intro x hx
    obtain ⟨call, -, rfl⟩ := List.mem_map.mp hx
    rfl

theorem engineOn_append_calls {calls : List QmiCall} (h : .locClientOpen ∉ calls) :
    engineOn everyOpen (hist ++ calls.map .out) = engineOn everyOpen hist := by
  rw [engineOn, latest_append_of_none]
  · rfl
  · intro x hx
    obtain ⟨call, hcall, rfl⟩ := List.mem_map.mp hx
    cases call with
    | locClientOpen => exact absurd hcall h
    | locClientClose => rfl
    | locClientRegisterEventMask qmiMask => rfl

theorem engineOn_append_event :
    engineOn everyOpen (hist ++ [.event e]) =
      match e with
      | .engineState on => on
      | .open _ _ => if everyOpen then false else engineOn everyOpen hist
      | .close | .startTimeBasedTracking | .stopTimeBasedTracking => engineOn everyOpen hist := by
  rw [engineOn, latest_concat]
  cases e with
  | «open» mask batchedGenfenceBreach => cases everyOpen <;> rfl
  | close => rfl
  | startTimeBasedTracking => rfl
  | stopTimeBasedTracking => rfl
  | engineState on => rfl

theorem engineOn_append_locClientOpen :
    engineOn everyOpen (hist ++ [.out .locClientOpen]) = false := by
  rw [engineOn, latest_concat]
  rfl

theorem registered_append_locClientOpen : registered (hist ++ [.out .locClientOpen]) = 0 := by
  rw [registered, latest_concat]
  rfl

theorem registered_append_event : registered (hist ++ [.event e]) = registered hist := by
  rw [registered, latest_concat]
  rfl

end History

/-! ## What a message keeps -/

section Steps

variable {everyOpen : Bool} {hist : List (Item Event QmiCall)} {s : LocApiV02} {e : Event}

theorem convertMask_zero (batchedGenfenceBreach : Bool) : convertMask batchedGenfenceBreach 0 = 0 := by
  cases batchedGenfenceBreach <;> decide

theorem clear_and (qmiMask clearMask : UInt64) : (qmiMask &&& ~~~clearMask) &&& clearMask = 0 := by
  rw [UInt64.and_assoc, UInt64.and_comm (~~~clearMask), UInt64.and_not_self, UInt64.and_zero]

namespace LocApiV02

/-- What is registered for the mask of the adapters. -/
def wanted (s : LocApiV02) : UInt64 := s.adjustMaskIfNoSessionOrEngineOff (s.convertMask s.mMask)

theorem wanted_of_mMask_eq_zero (h : s.mMask = 0) : s.wanted = 0 := by
  rw [wanted, convertMask, h, convertMask_zero, adjustMaskIfNoSessionOrEngineOff]
  split
  · exact UInt64.zero_and
  · split
    · exact UInt64.zero_and
    · rfl

theorem registerEventMask_of_eq {mask : UInt64} (h : wanted { s with mMask := mask } = s.mQmiMask) :
    s.registerEventMask mask = ({ s with mMask := mask }, []) := by
  unfold registerEventMask
  dsimp only
  exact if_neg (not_not.mpr h)

theorem registerEventMask_of_ne {mask : UInt64} (h : wanted { s with mMask := mask } ≠ s.mQmiMask) :
    s.registerEventMask mask =
      ({ s with mQmiMask := wanted { s with mMask := mask }, mMask := mask },
        [.locClientRegisterEventMask (wanted { s with mMask := mask })]) := by
  unfold registerEventMask
  dsimp only
  exact if_pos h

theorem registerEventMask_fst (s : LocApiV02) (mask : UInt64) :
    (s.registerEventMask mask).1 =
      { s with mQmiMask := wanted { s with mMask := mask }, mMask := mask } := by
  by_cases h : wanted { s with mMask := mask } = s.mQmiMask
  · rw [registerEventMask_of_eq h, h]
  · rw [registerEventMask_of_ne h]

theorem locClientOpen_not_mem_registerEventMask (s : LocApiV02) (mask : UInt64) :
    .locClientOpen ∉ (s.registerEventMask mask).2 := by
  by_cases h : wanted { s with mMask := mask } = s.mQmiMask
  · simp [registerEventMask_of_eq h]
  · simp [registerEventMask_of_ne h]

/-- What is registered afterwards is what is wanted, also when there was nothing to register. -/
theorem registered_registerEventMask (mask : UInt64) (h : registered hist = s.mQmiMask) :
    registered (hist ++ (s.registerEventMask mask).2.map .out) =
      wanted { s with mMask := mask } := by
  by_cases heq : wanted { s with mMask := mask } = s.mQmiMask
  · rw [registerEventMask_of_eq heq, List.map_nil, List.append_nil, h, heq]
  · rw [registerEventMask_of_ne heq, List.map_singleton, registered, latest_concat]
    rfl

end LocApiV02

/-- The client knows what is registered and which state the modem is in. Only while a stop waits for
the engine is it not what is wanted. -/
structure Agrees (everyOpen : Bool) (hist : List (Item Event QmiCall)) (s : LocApiV02) : Prop where
  registered_eq : registered hist = s.mQmiMask
  session_eq : sessionRuns hist = s.mInSession
  engine_eq : engineOn everyOpen hist = s.mEngineOn
  wanted_eq : s.mInSession = true ∨ s.mEngineOn = false → s.mQmiMask = s.wanted
  closed : s.clientOpen = false → s.mMask = 0 ∧ s.mQmiMask = 0

namespace Agrees

theorem lawful (h : Agrees everyOpen hist s) : Lawful everyOpen hist s := by
  refine ⟨fun hsession ↦ ?_, fun hsession hengine ↦ ?_⟩
  · rw [h.session_eq] at hsession
    rw [h.registered_eq, h.wanted_eq (.inl hsession), h.engine_eq, LocApiV02.wanted,
      LocApiV02.adjustMaskIfNoSessionOrEngineOff, hsession]
    cases s.mEngineOn <;> rfl
  · rw [h.session_eq] at hsession
    rw [h.engine_eq] at hengine
    rw [h.registered_eq, h.wanted_eq (.inr hengine), LocApiV02.wanted,
      LocApiV02.adjustMaskIfNoSessionOrEngineOff, hsession]
    exact clear_and _ _

/-- A message ends with registering the mask again. -/
theorem register {mask : UInt64} (hregistered : registered hist = s.mQmiMask)
    (hsession : sessionRuns hist = s.mInSession) (hengine : engineOn everyOpen hist = s.mEngineOn)
    (hclosed : s.clientOpen = false → mask = 0) :
    Agrees everyOpen (hist ++ (s.registerEventMask mask).2.map .out)
      (s.registerEventMask mask).1 := by
  rw [LocApiV02.registerEventMask_fst]
  refine ⟨LocApiV02.registered_registerEventMask mask hregistered, ?_, ?_, fun _ ↦ rfl,
    fun hclosed' ↦ ⟨hclosed hclosed', LocApiV02.wanted_of_mMask_eq_zero (hclosed hclosed')⟩⟩
  · rw [sessionRuns_append_calls, hsession]
  · rw [engineOn_append_calls (LocApiV02.locClientOpen_not_mem_registerEventMask s mask), hengine]

variable (h : Agrees everyOpen hist s)
include h

theorem openClient (mask : UInt64) (batchedGenfenceBreach : Bool)
    (hguard : OpensOff everyOpen s (.open mask batchedGenfenceBreach)) :
    Agrees everyOpen
      (hist ++ entry (.open mask batchedGenfenceBreach) (s.open_ mask batchedGenfenceBreach).2)
      (s.open_ mask batchedGenfenceBreach).1 := by
  unfold LocApiV02.open_
  cases hopen : s.clientOpen with
  | true =>
    rw [if_pos rfl, append_entry]
    refine register ?_ ?_ ?_ fun hclosed ↦ ?_
    · rw [registered_append_event, h.registered_eq]
    · rw [sessionRuns_append_event]
      exact h.session_eq
    · rw [engineOn_append_event]
      cases everyOpen with
      | true => exact (hguard (.inl rfl)).symm
      | false => exact h.engine_eq
    · rw [hopen] at hclosed
      cases hclosed
  | false =>
    -- the engine is off now, and the state kept says so too
    have hlist : ∀ calls, hist ++
        entry (Event.open mask batchedGenfenceBreach) (QmiCall.locClientOpen :: calls) =
          (hist ++ [.event (.open mask batchedGenfenceBreach)] ++ [.out .locClientOpen]) ++
            calls.map .out := by
      intro calls
      rw [append_entry, List.map_cons]
      simp
    dsimp only
    rw [if_neg (by simp), hlist]
    refine register ?_ ?_ ?_ fun hclosed ↦ ?_
    · rw [registered_append_locClientOpen]
      exact (h.closed hopen).2.symm
    · rw [sessionRuns_append_call, sessionRuns_append_event]
      exact h.session_eq
    · rw [engineOn_append_locClientOpen]
      exact (hguard (.inr hopen)).symm
    · cases hclosed

theorem close :
    Agrees everyOpen (hist ++ entry .close s.close.2) s.close.1 := by
  have hregistered : registered (hist ++ entry .close s.close.2) = 0 := by
    rw [LocApiV02.close, append_entry]
    cases hopen : s.clientOpen with
    | true =>
      rw [if_pos rfl, List.map_singleton, registered, latest_concat]
      rfl
    | false =>
      rw [if_neg (by simp), List.map_nil, List.append_nil, registered_append_event,
        h.registered_eq, (h.closed hopen).2]
  have hcalls : .locClientOpen ∉ s.close.2 := by
    rw [LocApiV02.close]
    cases s.clientOpen <;> simp
  refine ⟨hregistered, ?_, ?_, fun _ ↦ ?_, fun _ ↦ ⟨rfl, rfl⟩⟩
  · rw [append_entry, sessionRuns_append_calls, sessionRuns_append_event]
    rfl
  · rw [append_entry, engineOn_append_calls hcalls, engineOn_append_event]
    exact h.engine_eq
  · exact (LocApiV02.wanted_of_mMask_eq_zero rfl).symm

theorem startTimeBasedTracking :
    Agrees everyOpen (hist ++ entry .startTimeBasedTracking s.startTimeBasedTracking.2)
      s.startTimeBasedTracking.1 := by
  rw [append_entry]
  refine register ?_ ?_ ?_ fun hclosed ↦ (h.closed hclosed).1
  · rw [registered_append_event]
    exact h.registered_eq
  · rw [sessionRuns_append_event]
  · rw [engineOn_append_event]
    exact h.engine_eq

/-- While the engine is on, the mask stays as it is. -/
theorem stopTimeBasedTracking :
    Agrees everyOpen (hist ++ entry .stopTimeBasedTracking s.stopTimeBasedTracking.2)
      s.stopTimeBasedTracking.1 := by
  unfold LocApiV02.stopTimeBasedTracking
  rw [append_entry]
  cases hengine : s.mEngineOn with
  | false =>
    refine register ?_ ?_ ?_ fun hclosed ↦ (h.closed hclosed).1
    · rw [registered_append_event]
      exact h.registered_eq
    · rw [sessionRuns_append_event]
    · rw [engineOn_append_event, ← hengine]
      exact h.engine_eq
  | true =>
    dsimp only
    rw [if_neg (by simp), List.map_nil, List.append_nil]
    refine ⟨?_, ?_, ?_, fun hor ↦ ?_, h.closed⟩
    · rw [registered_append_event]
      exact h.registered_eq
    · rw [sessionRuns_append_event]
    · rw [engineOn_append_event, ← hengine]
      exact h.engine_eq
    · simp at hor

theorem updateEngineState (on : Bool) :
    Agrees everyOpen (hist ++ entry (.engineState on) (s.updateEngineState on).2)
      (s.updateEngineState on).1 := by
  rw [append_entry]
  refine register ?_ ?_ ?_ fun hclosed ↦ (h.closed hclosed).1
  · rw [registered_append_event]
    exact h.registered_eq
  · rw [sessionRuns_append_event]
    exact h.session_eq
  · rw [engineOn_append_event]

theorem step {calls : List QmiCall} {s' : LocApiV02}
    (hguard : OpensOff everyOpen s e) (hs : s.step e = some (s', calls)) :
    Agrees everyOpen (hist ++ entry e calls) s' := by
  obtain ⟨rfl, rfl⟩ := some_pair_inj hs
  cases e with
  | «open» mask batchedGenfenceBreach => exact h.openClient mask batchedGenfenceBreach hguard
  | close => exact h.close
  | startTimeBasedTracking => exact h.startTimeBasedTracking
  | stopTimeBasedTracking => exact h.stopTimeBasedTracking
  | engineState on => exact h.updateEngineState on

end Agrees

end Steps

/-! ## Runs -/

/-- As long as the client is opened only while the state kept says that the engine is off, the
registered events follow the session and the engine. -/
theorem mask_lawful_of_run {everyOpen : Bool} {mExcludedMask : UInt64}
    {hist : List (Item Event QmiCall)} {s : LocApiV02}
    (h : Run LocApiV02.step (OpensOff everyOpen) (.init mExcludedMask) hist s) :
    Lawful everyOpen hist s := by
  have hagrees : Agrees everyOpen hist s :=
    h.invariant (I := Agrees everyOpen)
      ⟨rfl, rfl, rfl, fun _ ↦ (LocApiV02.wanted_of_mMask_eq_zero rfl).symm, fun _ ↦ ⟨rfl, rfl⟩⟩
      fun ih hguard hs ↦ ih.step hguard hs
  exact hagrees.lawful

/-- The modem restarts when the session is over and the engine is off. -/
theorem mask_lawful_of_run_restart :
    ∃ hist s, Run LocApiV02.step (OpensOff false) (.init 0) hist s ∧ sessionRuns hist = true ∧
      Lawful false hist s := by
  obtain ⟨hist, s, hrun, hsession⟩ := Run.exists_of_runEvents LocApiV02.step (OpensOff false)
    (.init 0)
    [.open AdapterEvent.reportNmea1hz.bit true, .startTimeBasedTracking, .engineState true,
      .stopTimeBasedTracking, .engineState false, .close,
      .open AdapterEvent.reportNmea1hz.bit true, .startTimeBasedTracking]
    (fun hist _ ↦ sessionRuns hist) (by decide +kernel)
  exact ⟨hist, s, hrun, hsession, mask_lawful_of_run hrun⟩

/-- When the modem restarts while the engine is on, the NMEA event is registered in the next session
although the engine is off. -/
theorem not_lawful :
    ¬∃ everyOpen, ∀ mExcludedMask hist s,
      Run LocApiV02.step (fun _ _ ↦ True) (.init mExcludedMask) hist s →
        Lawful everyOpen hist s := by
  rintro ⟨everyOpen, h⟩
  obtain ⟨hist, s, hrun, hlaw⟩ := Run.exists_of_runEvents LocApiV02.step (fun _ _ ↦ True)
    (.init 0)
    [.open AdapterEvent.reportNmea1hz.bit true, .startTimeBasedTracking, .engineState true,
      .close, .open AdapterEvent.reportNmea1hz.bit true, .startTimeBasedTracking]
    (fun hist s ↦ sessionRuns hist && !engineOn everyOpen hist &&
      registered hist != (s.convertMask s.mMask &&& ~~~nmea))
    (by cases everyOpen <;> decide +kernel)
  rw [Bool.and_eq_true, Bool.and_eq_true, Bool.not_eq_true', bne_iff_ne] at hlaw
  obtain ⟨⟨hsession, hengine⟩, hne⟩ := hlaw
  have hregistered := (h 0 hist s hrun).session hsession
  rw [hengine] at hregistered
  exact hne hregistered

end MataDevice.EventMask
