import MataDevice.Lib.OrderedMap
import MataDevice.PbMsgConv.Decoders
import Mathlib.Tactic

/-!
# The client of the integration API

`LocationIntegrationApiImpl` sends configuration requests to the daemon, keeps what it was asked for
and counts, for each type of request, the ones it waits for an answer to. When the daemon was
restarted, all of these have failed, and what is kept is sent again, through the same function as a
request of the client.

Whether a message can be sent is not up to this process. A request that `sends` refuses is not sent.
Floating point numbers are only passed on, and are of any type. The messages can always be
serialized.
-/

namespace MataDevice.Integration

open PbMsgConv (LocationError)

/-! ## Types of requests -/

/-- `LocConfigTypeEnum` -/
inductive LocConfigType
  | constellations
  | constrainedTimeUncertainty
  | positionAssistedClockEstimator
  | aidingDataDeletion
  | leverArm
  | robustLocation
  | minGpsWeek
  | deadReckoningEngine
  | minSvElevation
  | constellationSecondaryBand
  | engineRunState
  | userConsentTerrestrialPositioning
  | getRobustLocationConfig
  | getMinGpsWeek
  | getMinSvElevation
  | getConstellationSecondaryBandConfig
  deriving DecidableEq, Repr

def LocConfigType.value : LocConfigType → ℕ
  | constellations => 1
  | constrainedTimeUncertainty => 2
  | positionAssistedClockEstimator => 3
  | aidingDataDeletion => 4
  | leverArm => 5
  | robustLocation => 6
  | minGpsWeek => 7
  | deadReckoningEngine => 8
  | minSvElevation => 9
  | constellationSecondaryBand => 10
  | engineRunState => 11
  | userConsentTerrestrialPositioning => 12
  | getRobustLocationConfig => 100
  | getMinGpsWeek => 101
  | getMinSvElevation => 102
  | getConstellationSecondaryBandConfig => 103

theorem LocConfigType.value_injective : Function.Injective value := by
  intro t t' h
  cases t <;> cases t' <;> first | rfl | cases h

instance : LinearOrder LocConfigType := LinearOrder.lift' LocConfigType.value
  LocConfigType.value_injective

/-- The ids of the requests, `E_INTAPI_..._MSG_ID`. -/
inductive ELocMsgID
  | configConstraintedTunc
  | configPositionAssistedClockEstimator
  | configSvConstellation
  | configConstellationSecondaryBand
  | configAidingDataDeletion
  | configLeverArm
  | configRobustLocation
  | configMinGpsWeek
  | configDeadReckoningEngine
  | configMinSvElevation
  | configEngineRunState
  | configUserConsentTerrestrialPositioning
  | getRobustLocationConfigReq
  | getMinGpsWeekReq
  | getMinSvElevationReq
  | getConstellationSecondaryBandConfigReq
  deriving DecidableEq, Repr

def getLocConfigTypeFromMsgId : ELocMsgID → LocConfigType
  | .configConstraintedTunc => .constrainedTimeUncertainty
  | .configPositionAssistedClockEstimator => .positionAssistedClockEstimator
  | .configSvConstellation => .constellations
  | .configConstellationSecondaryBand => .constellationSecondaryBand
  | .configAidingDataDeletion => .aidingDataDeletion
  | .configLeverArm => .leverArm
  | .configRobustLocation => .robustLocation
  | .configMinGpsWeek => .minGpsWeek
  | .configDeadReckoningEngine => .deadReckoningEngine
  | .configMinSvElevation => .minSvElevation
  | .configEngineRunState => .engineRunState
  | .configUserConsentTerrestrialPositioning => .userConsentTerrestrialPositioning
  | .getRobustLocationConfigReq => .getRobustLocationConfig
  | .getMinGpsWeekReq => .getMinGpsWeek
  | .getMinSvElevationReq => .getMinSvElevation
  | .getConstellationSecondaryBandConfigReq => .getConstellationSecondaryBandConfig

inductive LocIntegrationResponse
  | success
  | failure
  | notSupported
  | paramInvalid
  deriving DecidableEq, Repr

def getLocIntegrationResponse : LocationError → LocIntegrationResponse
  | .success => .success
  | .notSupported => .notSupported
  | .invalidParameter => .paramInvalid
  | _ => .failure

/-! ## Configurations -/

structure GnssSvTypeConfig where
  size : UInt32
  enabledSvTypesMask : UInt64
  blacklistedSvTypesMask : UInt64
  deriving DecidableEq, Repr

structure GnssSvIdConfig where
  size : UInt32
  gloBlacklistSvMask : UInt64
  bdsBlacklistSvMask : UInt64
  qzssBlacklistSvMask : UInt64
  galBlacklistSvMask : UInt64
  sbasBlacklistSvMask : UInt64
  navicBlacklistSvMask : UInt64
  deriving DecidableEq, Repr

structure LeverArmParams (ρ : Type) where
  forwardOffsetMeters : ρ
  sidewaysOffsetMeters : ρ
  upOffsetMeters : ρ
  deriving DecidableEq, Repr

structure LeverArmConfigInfo (ρ : Type) where
  leverArmValidMask : UInt32
  gnssToVRP : LeverArmParams ρ
  drImuToGnss : LeverArmParams ρ
  veppImuToGnss : LeverArmParams ρ
  deriving DecidableEq, Repr

structure BodyToSensorMountParams (ρ : Type) where
  rollOffset : ρ
  yawOffset : ρ
  pitchOffset : ρ
  offsetUnc : ρ
  deriving DecidableEq, Repr

structure DeadReckoningEngineConfig (ρ : Type) where
  validMask : UInt64
  bodyToSensorMountParams : BodyToSensorMountParams ρ
  vehicleSpeedScaleFactor : ρ
  vehicleSpeedScaleFactorUnc : ρ
  gyroScaleFactor : ρ
  gyroScaleFactorUnc : ρ
  deriving DecidableEq, Repr

structure GnssAidingData where
  deleteAll : Bool
  svMask : UInt32
  svTypeMask : UInt32
  commonMask : UInt32
  dreAidingDataMask : UInt32
  posEngineMask : UInt32
  deriving DecidableEq, Repr

/-- The values of a `PositioningEngineMask` that the API passes: one engine at a time. -/
inductive PositioningEngine
  | standard
  | deadReckoning
  | precise
  | vp
  deriving DecidableEq, Repr

def PositioningEngine.value : PositioningEngine → ℕ
  | standard => 1
  | deadReckoning => 2
  | precise => 4
  | vp => 8

theorem PositioningEngine.value_injective : Function.Injective value := by
  intro e e' h
  cases e <;> cases e' <;> first | rfl | cases h

instance : LinearOrder PositioningEngine := LinearOrder.lift' PositioningEngine.value
  PositioningEngine.value_injective

inductive LocEngineRunState
  | pause
  | resume
  deriving DecidableEq, Repr

/-- The messages that are sent to the daemon, one for each function of the API. -/
inductive Request (ρ : Type)
  | configConstellations (enablement : GnssSvTypeConfig) (blacklist : GnssSvIdConfig)
  | configConstellationSecondaryBand (secondaryBand : GnssSvTypeConfig)
  | configConstrainedTimeUncertainty (enable : Bool) (tuncThreshold : ρ) (energyBudget : UInt32)
  | configPositionAssistedClockEstimator (enable : Bool)
  | gnssDeleteAidingData (aidingData : GnssAidingData)
  | configLeverArm (configInfo : LeverArmConfigInfo ρ)
  | configRobustLocation (enable enableForE911 : Bool)
  | configMinGpsWeek (minGpsWeek : UInt16)
  | configDeadReckoningEngineParams (dreConfig : DeadReckoningEngineConfig ρ)
  | configMinSvElevation (minSvElevation : UInt8)
  | configEngineRunState (engType : PositioningEngine) (engState : LocEngineRunState)
  | setUserConsentForTerrestrialPositioning (userConsent : Bool)
  | getRobustLocationConfig
  | getMinGpsWeek
  | getMinSvElevation
  | getConstellationSecondaryBandConfig
  deriving DecidableEq, Repr

namespace Request

variable {ρ : Type}

def msgId : Request ρ → ELocMsgID
  | configConstellations .. => .configSvConstellation
  | configConstellationSecondaryBand .. => .configConstellationSecondaryBand
  | configConstrainedTimeUncertainty .. => .configConstraintedTunc
  | configPositionAssistedClockEstimator .. => .configPositionAssistedClockEstimator
  | gnssDeleteAidingData .. => .configAidingDataDeletion
  | configLeverArm .. => .configLeverArm
  | configRobustLocation .. => .configRobustLocation
  | configMinGpsWeek .. => .configMinGpsWeek
  | configDeadReckoningEngineParams .. => .configDeadReckoningEngine
  | configMinSvElevation .. => .configMinSvElevation
  | configEngineRunState .. => .configEngineRunState
  | setUserConsentForTerrestrialPositioning .. => .configUserConsentTerrestrialPositioning
  | getRobustLocationConfig => .getRobustLocationConfigReq
  | getMinGpsWeek => .getMinGpsWeekReq
  | getMinSvElevation => .getMinSvElevationReq
  | getConstellationSecondaryBandConfig => .getConstellationSecondaryBandConfigReq

/-- The type that the answer to the request counts for. -/
def type (req : Request ρ) : LocConfigType := getLocConfigTypeFromMsgId req.msgId

end Request

/-! ## The client -/

structure TuncConfigInfo (ρ : Type) where
  isValid : Bool
  enable : Bool
  tuncThresholdMs : ρ
  energyBudget : UInt32

structure PaceConfigInfo where
  isValid : Bool
  enable : Bool

/-- The flag is for the constellations and for the secondary band. -/
structure SvConfigInfo where
  isValid : Bool
  constellationEnablementConfig : GnssSvTypeConfig
  blacklistSvConfig : GnssSvIdConfig
  secondaryBandConfig : GnssSvTypeConfig

structure RobustLocationConfigInfo where
  isValid : Bool
  enable : Bool
  enableForE911 : Bool

structure DeadReckoningEngineConfigInfo (ρ : Type) where
  isValid : Bool
  dreConfig : DeadReckoningEngineConfig ρ

structure GtpUserConsentConfigInfo where
  isValid : Bool
  userConsent : Bool

/-- Which callbacks were passed. -/
structure LocIntegrationCbs where
  configCb : Bool
  getRobustLocationConfigCb : Bool
  getMinGpsWeekCb : Bool
  getMinSvElevationCb : Bool
  getConstellationSecondaryBandConfigCb : Bool
  deriving DecidableEq, Repr

structure Api (ρ : Type) where
  mHalRegistered : Bool
  mTuncConfigInfo : TuncConfigInfo ρ
  mPaceConfigInfo : PaceConfigInfo
  mSvConfigInfo : SvConfigInfo
  mLeverArmConfigInfo : LeverArmConfigInfo ρ
  mRobustLocationConfigInfo : RobustLocationConfigInfo
  mDreConfigInfo : DeadReckoningEngineConfigInfo ρ
  mEngRunStateConfigMap : OrderedMap PositioningEngine LocEngineRunState
  mGtpUserConsentConfigInfo : GtpUserConsentConfigInfo
  mConfigReqCntMap : OrderedMap LocConfigType ℕ
  mIntegrationCbs : LocIntegrationCbs

/-- What a function of the client does to the outside. -/
inductive Output (ρ : Type)
  | sent (msg : Request ρ)
  | configCb (configType : LocConfigType) (response : LocIntegrationResponse)
  deriving DecidableEq, Repr

namespace Api

variable {ρ : Type}

/-- `LocationIntegrationApiImpl`, the constructor. All configurations are zero. -/
def init [Zero ρ] (cbs : LocIntegrationCbs) : Api ρ :=
  let leverArm : LeverArmParams ρ := ⟨0, 0, 0⟩
  { mHalRegistered := false
    mTuncConfigInfo := ⟨false, false, 0, 0⟩
    mPaceConfigInfo := ⟨false, false⟩
    mSvConfigInfo := ⟨false, ⟨0, 0, 0⟩, ⟨0, 0, 0, 0, 0, 0, 0⟩, ⟨0, 0, 0⟩⟩
    mLeverArmConfigInfo := ⟨0, leverArm, leverArm, leverArm⟩
    mRobustLocationConfigInfo := ⟨false, false, false⟩
    mDreConfigInfo := ⟨false, ⟨0, ⟨0, 0, 0, 0⟩, 0, 0, 0, 0⟩⟩
    mEngRunStateConfigMap := .empty
    mGtpUserConsentConfigInfo := ⟨false, false⟩
    mConfigReqCntMap := .empty
    mIntegrationCbs := cbs }

/-! ### Counting requests -/

def addConfigReq (configType : LocConfigType) (api : Api ρ) : Api ρ :=
  match api.mConfigReqCntMap.find? configType with
  | none => { api with mConfigReqCntMap := api.mConfigReqCntMap.insert configType 1 }
  | some cnt =>
    let newCnt := cnt + 1
    { api with
      mConfigReqCntMap := (api.mConfigReqCntMap.erase configType).insert configType newCnt }

def processConfigRespCb (msgId : ELocMsgID) (err : LocationError) (api : Api ρ) :
    Api ρ × List (Output ρ) :=
  let configType := getLocConfigTypeFromMsgId msgId
  let intResponse := getLocIntegrationResponse err
  if api.mIntegrationCbs.configCb then
    match api.mConfigReqCntMap.find? configType with
    | none => (api, [])
    | some reqCnt =>
      let map := api.mConfigReqCntMap.erase configType
      let map := if reqCnt - 1 > 0 then map.insert configType (reqCnt - 1) else map
      ({ api with mConfigReqCntMap := map },
        if reqCnt > 0 then [.configCb configType intResponse] else [])
  else (api, [])

/-- The order of the types is not specified. -/
def flushConfigReqs (api : Api ρ) : Api ρ × List (Output ρ) :=
  ({ api with mConfigReqCntMap := .empty },
    api.mConfigReqCntMap.entries.flatMap fun (configType, reqCnt) ↦
      List.replicate reqCnt (.configCb configType .failure))

/-- `rc` says whether the message can be sent. -/
def sendConfigMsgToHalDaemon (configType : LocConfigType) (msg : Request ρ) (rc : Bool)
    (invokeResponseCb : Bool) (api : Api ρ) : Api ρ × List (Output ρ) :=
  let messageSentToHal := api.mHalRegistered && rc
  if messageSentToHal then
    (if invokeResponseCb && api.mIntegrationCbs.configCb then addConfigReq configType api else api,
      [.sent msg])
  else
    (api, if invokeResponseCb && api.mIntegrationCbs.configCb then [.configCb configType .failure]
      else [])

/-- Also what happens when the listener is ready. -/
def sendClientRegMsgToHalDaemon (rc : Bool) (api : Api ρ) : Api ρ :=
  if rc then { api with mHalRegistered := true } else api

/-! ### Functions of the API -/

def configConstellations (constellationEnablementConfig : GnssSvTypeConfig)
    (blacklistSvConfig : GnssSvIdConfig) (rc : Bool) (api : Api ρ) : Api ρ × List (Output ρ) :=
  let (api, outs) := sendConfigMsgToHalDaemon .constellations
    (.configConstellations constellationEnablementConfig blacklistSvConfig) rc true api
  ({ api with
      mSvConfigInfo := { api.mSvConfigInfo with
        isValid := true
        constellationEnablementConfig := constellationEnablementConfig
        blacklistSvConfig := blacklistSvConfig } }, outs)

def configConstellationSecondaryBand (secondaryBandConfig : GnssSvTypeConfig) (rc : Bool)
    (api : Api ρ) : Api ρ × List (Output ρ) :=
  let (api, outs) := sendConfigMsgToHalDaemon .constellationSecondaryBand
    (.configConstellationSecondaryBand secondaryBandConfig) rc true api
  ({ api with
      mSvConfigInfo := { api.mSvConfigInfo with
        isValid := true
        secondaryBandConfig := secondaryBandConfig } }, outs)

def configConstrainedTimeUncertainty (enable : Bool) (tuncThreshold : ρ) (energyBudget : UInt32)
    (rc : Bool) (api : Api ρ) : Api ρ × List (Output ρ) :=
  let (api, outs) := sendConfigMsgToHalDaemon .constrainedTimeUncertainty
    (.configConstrainedTimeUncertainty enable tuncThreshold energyBudget) rc true api
  ({ api with mTuncConfigInfo := ⟨true, enable, tuncThreshold, energyBudget⟩ }, outs)

def configPositionAssistedClockEstimator (enable : Bool) (rc : Bool) (api : Api ρ) :
    Api ρ × List (Output ρ) :=
  let (api, outs) := sendConfigMsgToHalDaemon .positionAssistedClockEstimator
    (.configPositionAssistedClockEstimator enable) rc true api
  ({ api with mPaceConfigInfo := ⟨true, enable⟩ }, outs)

def gnssDeleteAidingData (aidingData : GnssAidingData) (rc : Bool) (api : Api ρ) :
    Api ρ × List (Output ρ) :=
  sendConfigMsgToHalDaemon .aidingDataDeletion (.gnssDeleteAidingData aidingData) rc true api

/-- Without a lever arm there is no message, and no error either. -/
def configLeverArm (configInfo : LeverArmConfigInfo ρ) (rc : Bool) (api : Api ρ) :
    Api ρ × List (Output ρ) :=
  if configInfo.leverArmValidMask != 0 then
    let (api, outs) := sendConfigMsgToHalDaemon .leverArm (.configLeverArm configInfo) rc true api
    ({ api with mLeverArmConfigInfo := configInfo }, outs)
  else (api, [])

def configRobustLocation (enable enableForE911 : Bool) (rc : Bool) (api : Api ρ) :
    Api ρ × List (Output ρ) :=
  let (api, outs) := sendConfigMsgToHalDaemon .robustLocation
    (.configRobustLocation enable enableForE911) rc true api
  ({ api with mRobustLocationConfigInfo := ⟨true, enable, enableForE911⟩ }, outs)

def configMinGpsWeek (minGpsWeek : UInt16) (rc : Bool) (api : Api ρ) : Api ρ × List (Output ρ) :=
  sendConfigMsgToHalDaemon .minGpsWeek (.configMinGpsWeek minGpsWeek) rc true api

def configDeadReckoningEngineParams (dreConfig : DeadReckoningEngineConfig ρ) (rc : Bool)
    (api : Api ρ) : Api ρ × List (Output ρ) :=
  let api := { api with mDreConfigInfo := ⟨true, dreConfig⟩ }
  sendConfigMsgToHalDaemon .deadReckoningEngine
    (.configDeadReckoningEngineParams api.mDreConfigInfo.dreConfig) rc true api

def configMinSvElevation (minSvElevation : UInt8) (rc : Bool) (api : Api ρ) :
    Api ρ × List (Output ρ) :=
  sendConfigMsgToHalDaemon .minSvElevation (.configMinSvElevation minSvElevation) rc true api

def configEngineRunState (engType : PositioningEngine) (engState : LocEngineRunState) (rc : Bool)
    (api : Api ρ) : Api ρ × List (Output ρ) :=
  let api := { api with
    mEngRunStateConfigMap := api.mEngRunStateConfigMap.insert engType engState }
  sendConfigMsgToHalDaemon .engineRunState (.configEngineRunState engType engState) rc true api

def setUserConsentForTerrestrialPositioning (userConsent : Bool) (rc : Bool) (api : Api ρ) :
    Api ρ × List (Output ρ) :=
  let api := { api with mGtpUserConsentConfigInfo := ⟨true, userConsent⟩ }
  sendConfigMsgToHalDaemon .userConsentTerrestrialPositioning
    (.setUserConsentForTerrestrialPositioning userConsent) rc true api

/-- The function signals an error when there is no callback to receive the result. -/
def getConfig (cb : Bool) (configType : LocConfigType) (msg : Request ρ) (rc : Bool)
    (api : Api ρ) : Api ρ × List (Output ρ) :=
  if cb then sendConfigMsgToHalDaemon configType msg rc true api else (api, [])

def getRobustLocationConfig (rc : Bool) (api : Api ρ) : Api ρ × List (Output ρ) :=
  getConfig api.mIntegrationCbs.getRobustLocationConfigCb .getRobustLocationConfig
    .getRobustLocationConfig rc api

def getMinGpsWeek (rc : Bool) (api : Api ρ) : Api ρ × List (Output ρ) :=
  getConfig api.mIntegrationCbs.getMinGpsWeekCb .getMinGpsWeek .getMinGpsWeek rc api

def getMinSvElevation (rc : Bool) (api : Api ρ) : Api ρ × List (Output ρ) :=
  getConfig api.mIntegrationCbs.getMinSvElevationCb .getMinSvElevation .getMinSvElevation rc api

def getConstellationSecondaryBandConfig (rc : Bool) (api : Api ρ) : Api ρ × List (Output ρ) :=
  getConfig api.mIntegrationCbs.getConstellationSecondaryBandConfigCb
    .getConstellationSecondaryBandConfig .getConstellationSecondaryBandConfig rc api

/-- A call of the function that makes the request. -/
def call : Request ρ → Bool → Api ρ → Api ρ × List (Output ρ)
  | .configConstellations enablement blacklist => configConstellations enablement blacklist
  | .configConstellationSecondaryBand secondaryBand =>
    configConstellationSecondaryBand secondaryBand
  | .configConstrainedTimeUncertainty enable tuncThreshold energyBudget =>
    configConstrainedTimeUncertainty enable tuncThreshold energyBudget
  | .configPositionAssistedClockEstimator enable => configPositionAssistedClockEstimator enable
  | .gnssDeleteAidingData aidingData => gnssDeleteAidingData aidingData
  | .configLeverArm configInfo => configLeverArm configInfo
  | .configRobustLocation enable enableForE911 => configRobustLocation enable enableForE911
  | .configMinGpsWeek minGpsWeek => configMinGpsWeek minGpsWeek
  | .configDeadReckoningEngineParams dreConfig => configDeadReckoningEngineParams dreConfig
  | .configMinSvElevation minSvElevation => configMinSvElevation minSvElevation
  | .configEngineRunState engType engState => configEngineRunState engType engState
  | .setUserConsentForTerrestrialPositioning userConsent =>
    setUserConsentForTerrestrialPositioning userConsent
  | .getRobustLocationConfig => getRobustLocationConfig
  | .getMinGpsWeek => getMinGpsWeek
  | .getMinSvElevation => getMinSvElevation
  | .getConstellationSecondaryBandConfig => getConstellationSecondaryBandConfig

/-! ### The daemon is ready -/

/-- A message that is sent again if there is something to send. -/
def sendIf (valid : Bool) (configType : LocConfigType) (msg : Request ρ) :
    List (LocConfigType × Request ρ) :=
  if valid then [(configType, msg)] else []

/-- The types and the messages that are sent again. The min gps week is not among them, as the modem
can overwrite it over time. The order of the engines is not specified. -/
def cached (api : Api ρ) : List (LocConfigType × Request ρ) :=
  List.flatten [
    sendIf api.mSvConfigInfo.isValid .constellations
      (.configConstellations api.mSvConfigInfo.constellationEnablementConfig
        api.mSvConfigInfo.blacklistSvConfig),
    sendIf (api.mSvConfigInfo.secondaryBandConfig.size != 0) .constellationSecondaryBand
      (.configConstellationSecondaryBand api.mSvConfigInfo.secondaryBandConfig),
    sendIf api.mTuncConfigInfo.isValid .constrainedTimeUncertainty
      (.configConstrainedTimeUncertainty api.mTuncConfigInfo.enable
        api.mTuncConfigInfo.tuncThresholdMs api.mTuncConfigInfo.energyBudget),
    sendIf api.mPaceConfigInfo.isValid .positionAssistedClockEstimator
      (.configPositionAssistedClockEstimator api.mPaceConfigInfo.enable),
    sendIf (api.mLeverArmConfigInfo.leverArmValidMask != 0) .leverArm
      (.configLeverArm api.mLeverArmConfigInfo),
    sendIf api.mRobustLocationConfigInfo.isValid .robustLocation
      (.configRobustLocation api.mRobustLocationConfigInfo.enable
        api.mRobustLocationConfigInfo.enableForE911),
    sendIf api.mDreConfigInfo.isValid .deadReckoningEngine
      (.configDeadReckoningEngineParams api.mDreConfigInfo.dreConfig),
    sendIf api.mGtpUserConsentConfigInfo.isValid .userConsentTerrestrialPositioning
      (.setUserConsentForTerrestrialPositioning api.mGtpUserConsentConfigInfo.userConsent),
    api.mEngRunStateConfigMap.entries.map fun (engType, engState) ↦
      (.engineRunState, .configEngineRunState engType engState)]

/-- Send messages one after the other. -/
def sendAll (sends : Request ρ → Bool) :
    List (LocConfigType × Request ρ) → Api ρ → Api ρ × List (Output ρ)
  | [], api => (api, [])
  | (configType, msg) :: msgs, api =>
    let (api, outs) := sendConfigMsgToHalDaemon configType msg (sends msg) true api
    let (api, outs') := sendAll sends msgs api
    (api, outs ++ outs')

/-- `rc` says whether the registration can be sent, `sends` which of the messages can. -/
def processHalReadyMsg (rc : Bool) (sends : Request ρ → Bool) (api : Api ρ) :
    Api ρ × List (Output ρ) :=
  let (api, outs) := flushConfigReqs api
  let api := sendClientRegMsgToHalDaemon rc api
  let (api, outs') := sendAll sends (cached api) api
  (api, outs ++ outs')

end Api

end MataDevice.Integration
