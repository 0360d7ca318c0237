import MataDevice.Lib.Bounded
import Mathlib.Data.Nat.Notation

/-!
# Decoding protobuf messages with lists

`LocationApiPbMsgConv` decodes the messages that the daemon and its clients exchange. The lists of a
message are of any length, and so is what it says about them in a separate count, while the decoded
object has arrays of fixed size. Each decoder has a bound of its own: a cap, the length of one of
the lists, the count, or none. The ones of the satellites caps the length by the size of the array;
the others keep within the arrays and the lists only when the message happens to fit.

A decoder here has no result when it accesses an element that is not there. Floating point numbers
are only copied, and are of any type.
-/

namespace MataDevice.PbMsgConv

open Bounded

/-! ## Enumerations and masks -/

inductive LocationError
  | success
  | generalFailure
  | callbackMissing
  | invalidParameter
  | idExists
  | idUnknown
  | alreadyStarted
  | geofencesAtMax
  | notSupported
  | timeout
  | gnssDisabled
  deriving DecidableEq, Repr

/-- The values of a protobuf enumeration that it does not define are kept. -/
inductive PBLocationError
  | success
  | invalidParameter
  | notSupported
  | generalFailure
  | timeout
  | unrecognized (value : ℕ)
  deriving DecidableEq, Repr

def getPBEnumForLocationError : LocationError → PBLocationError
  | .success => .success
  | .invalidParameter => .invalidParameter
  | .notSupported => .notSupported
  | .timeout => .timeout
  | _ => .generalFailure

def getEnumForPBLocationError : PBLocationError → LocationError
  | .success => .success
  | .invalidParameter => .invalidParameter
  | .notSupported => .notSupported
  | .timeout => .timeout
  | _ => .generalFailure

inductive BatchingStatus
  | tripCompleted
  | positionAvailabe
  | positionUnavailable
  deriving DecidableEq, Repr

inductive PBBatchingStatus
  | tripCompleted
  | positionAvailabe
  | positionUnavailable
  | unrecognized (value : ℕ)
  deriving DecidableEq, Repr

def getPBEnumForBatchingStatus : BatchingStatus → PBBatchingStatus
  | .tripCompleted => .tripCompleted
  | .positionAvailabe => .positionAvailabe
  | .positionUnavailable => .positionUnavailable

def getEnumForPBBatchingStatus : PBBatchingStatus → BatchingStatus
  | .tripCompleted => .tripCompleted
  | .positionAvailabe => .positionAvailabe
  | .positionUnavailable => .positionUnavailable
  | .unrecognized _ => .positionUnavailable

/-- The conversions of masks go through the bits one by one. A bit has the same number on both
sides. -/
def convertBits (bits : List ℕ) (mask : UInt32) : UInt32 :=
  bits.foldl
    (fun converted bit ↦
      if mask &&& ⟨BitVec.twoPow 32 bit⟩ != 0 then converted ||| ⟨BitVec.twoPow 32 bit⟩
      else converted)
    0

/-- `LOCATION_HAS_LAT_LONG_BIT` to `LOCATION_HAS_BEARING_ACCURACY_BIT` -/
def locationFlagsBits : List ℕ := List.range 8

/-- `LOCATION_TECHNOLOGY_GNSS_BIT` to `LOCATION_TECHNOLOGY_VIS_BIT` -/
def locationTechnologyBits : List ℕ := List.range 11

/-- `GEOFENCE_BREACH_ENTER_BIT` to `GEOFENCE_BREACH_DWELL_OUT_BIT` -/
def geofenceBreachTypeBits : List ℕ := List.range 4

def getPBMaskForLocationFlagsMask : UInt32 → UInt32 := convertBits locationFlagsBits

def getLocationFlagsMaskFromPB : UInt32 → UInt32 := convertBits locationFlagsBits

def getPBMaskForLocationTechnologyMask : UInt32 → UInt32 := convertBits locationTechnologyBits

def getLocationTechnologyMaskFromPB : UInt32 → UInt32 := convertBits locationTechnologyBits

def getGfBreachTypeMaskFromPB : UInt32 → UInt32 := convertBits geofenceBreachTypeBits

/-- `GNSS_LOC_DATA_JAMMER_IND_BIT` and `GNSS_LOC_DATA_AGC_BIT` -/
def getGnssDataMaskFromPB (pbGnssDataMask : UInt64) : UInt64 :=
  (if pbGnssDataMask &&& 1 != 0 then 1 else 0) ||| if pbGnssDataMask &&& 2 != 0 then 2 else 0

/-! ## Locations -/

/-- `Location` without its size -/
structure Location (ρ : Type) where
  flags : UInt16
  timestamp : UInt64
  latitude : ρ
  longitude : ρ
  altitude : ρ
  speed : ρ
  bearing : ρ
  accuracy : ρ
  verticalAccuracy : ρ
  speedAccuracy : ρ
  bearingAccuracy : ρ
  conformityIndex : ρ
  techMask : UInt16
  spoofMask : UInt32
  elapsedRealTime : UInt64
  elapsedRealTimeUnc : UInt64
  deriving DecidableEq, Repr

structure PBLocation (ρ : Type) where
  flags : UInt32
  timestamp : UInt64
  latitude : ρ
  longitude : ρ
  altitude : ρ
  speed : ρ
  bearing : ρ
  horizontalAccuracy : ρ
  verticalAccuracy : ρ
  speedAccuracy : ρ
  bearingAccuracy : ρ
  techMask : UInt32
  deriving DecidableEq, Repr

/-- The fields that a `PBLocation` does not have are left. -/
def pbConvertToLocation {ρ : Type} (pbLoc : PBLocation ρ) (loc : Location ρ) : Location ρ :=
  { loc with
    flags := (getLocationFlagsMaskFromPB pbLoc.flags).toUInt16
    timestamp := pbLoc.timestamp
    latitude := pbLoc.latitude
    longitude := pbLoc.longitude
    altitude := pbLoc.altitude
    speed := pbLoc.speed
    bearing := pbLoc.bearing
    accuracy := pbLoc.horizontalAccuracy
    verticalAccuracy := pbLoc.verticalAccuracy
    speedAccuracy := pbLoc.speedAccuracy
    bearingAccuracy := pbLoc.bearingAccuracy
    techMask := (getLocationTechnologyMaskFromPB pbLoc.techMask).toUInt16 }

/-! ## Responses and notifications -/

section Notifications

variable {ρ : Type}

structure GeofenceResponse where
  clientId : UInt32
  error : LocationError
  deriving DecidableEq, Repr

structure PBGeofenceResponse where
  clientId : UInt32
  error : PBLocationError
  deriving DecidableEq, Repr

structure CollectiveResPayload where
  count : ℕ
  resp : Vector GeofenceResponse 1
  deriving DecidableEq, Repr

structure PBCollectiveResPayload where
  resp : List PBGeofenceResponse
  deriving DecidableEq, Repr

def pbConvertToCollectiveResPayload (pbClctResPayload : PBCollectiveResPayload)
    (clctResPayload : CollectiveResPayload) : Option CollectiveResPayload := do
  let count := pbClctResPayload.resp.length
  let resp ← copy (fun pb _ ↦ ⟨pb.clientId, getEnumForPBLocationError pb.error⟩)
    pbClctResPayload.resp count clctResPayload.resp
  return ⟨count, resp⟩

structure LocAPIBatchNotification (ρ : Type) where
  count : ℕ
  status : BatchingStatus
  location : Vector (Location ρ) 1
  deriving DecidableEq, Repr

structure PBLocAPIBatchNotification (ρ : Type) where
  status : PBBatchingStatus
  location : List (PBLocation ρ)
  deriving DecidableEq, Repr

def pbConvertToLocAPIBatchNotification (pbLocBatchNotif : PBLocAPIBatchNotification ρ)
    (locBatchNotif : LocAPIBatchNotification ρ) : Option (LocAPIBatchNotification ρ) := do
  let count := pbLocBatchNotif.location.length
  let location ← copy pbConvertToLocation pbLocBatchNotif.location count locBatchNotif.location
  return ⟨count, getEnumForPBBatchingStatus pbLocBatchNotif.status, location⟩

structure LocAPIGeofenceBreachNotification (ρ : Type) where
  count : ℕ
  timestamp : UInt64
  type : UInt16
  location : Location ρ
  id : Vector UInt32 1
  deriving DecidableEq, Repr

structure PBLocAPIGeofenceBreachNotification (ρ : Type) where
  timestamp : UInt64
  breachType : UInt32
  location : PBLocation ρ
  id : List UInt32
  deriving DecidableEq, Repr

/-- Only the first id is read, whatever their number, and the count is left. -/
def pbConvertToLocAPIGfBreachNotification
    (pbLocApiGfBreachNotif : PBLocAPIGeofenceBreachNotification ρ)
    (locApiGfBreachNotif : LocAPIGeofenceBreachNotification ρ) :
    Option (LocAPIGeofenceBreachNotification ρ) := do
  let id₀ ← pbLocApiGfBreachNotif.id[0]?
  let id ← change locApiGfBreachNotif.id 0 fun _ ↦ id₀
  return { locApiGfBreachNotif with
    timestamp := pbLocApiGfBreachNotif.timestamp
    type := (getGfBreachTypeMaskFromPB pbLocApiGfBreachNotif.breachType).toUInt16
    location := pbConvertToLocation pbLocApiGfBreachNotif.location locApiGfBreachNotif.location
    id := id }

end Notifications

/-! ## Satellites, data and measurements -/

section Gnss

def GNSS_SV_MAX : ℕ := 128

def GNSS_MEASUREMENTS_MAX : ℕ := 128

def GNSS_LOC_MAX_NUMBER_OF_SIGNAL_TYPES : ℕ := 20

variable {ρ PBSv Sv PBMeas Meas PBClock Clock : Type}

structure GnssSvNotification (Sv : Type) where
  count : ℕ
  gnssSignalTypeMaskValid : Bool
  gnssSvs : Vector Sv GNSS_SV_MAX
  deriving DecidableEq, Repr

structure PBLocApiGnssSvNotification (PBSv : Type) where
  gnssSignalTypeMaskValid : Bool
  gnssSvs : List PBSv
  deriving DecidableEq, Repr

/-- `convertSv` is what the body of the loop makes of one satellite. -/
def pbConvertToGnssSvNotif (convertSv : PBSv → Sv → Sv)
    (pbGnssSvNotif : PBLocApiGnssSvNotification PBSv) (gnssSvNotif : GnssSvNotification Sv) :
    Option (GnssSvNotification Sv) := do
  let count := min pbGnssSvNotif.gnssSvs.length GNSS_SV_MAX
  let gnssSvs ← copy convertSv pbGnssSvNotif.gnssSvs count gnssSvNotif.gnssSvs
  return ⟨count, pbGnssSvNotif.gnssSignalTypeMaskValid, gnssSvs⟩

structure GnssDataNotification (ρ : Type) where
  gnssDataMask : Vector UInt64 GNSS_LOC_MAX_NUMBER_OF_SIGNAL_TYPES
  jammerInd : Vector ρ GNSS_LOC_MAX_NUMBER_OF_SIGNAL_TYPES
  agc : Vector ρ GNSS_LOC_MAX_NUMBER_OF_SIGNAL_TYPES
  deriving DecidableEq, Repr

structure PBGnssDataNotification (ρ : Type) where
  numberSignalTypes : UInt32
  gnssDataMask : List UInt64
  jammerInd : List ρ
  agc : List ρ
  deriving DecidableEq, Repr

/-- The bound is the count of the message, and the three lists are read by it. -/
def pbConvertToGnssDataNotification (pbGnssDataNotif : PBGnssDataNotification ρ)
    (gnssDataNotif : GnssDataNotification ρ) : Option (GnssDataNotification ρ) :=
  let arrMaxLen := min pbGnssDataNotif.numberSignalTypes.toNat GNSS_LOC_MAX_NUMBER_OF_SIGNAL_TYPES
  forUpTo
    (fun i notif ↦ do
      let mask ← pbGnssDataNotif.gnssDataMask[i]?
      let gnssDataMask ← change notif.gnssDataMask i fun _ ↦ getGnssDataMaskFromPB mask
      let ind ← pbGnssDataNotif.jammerInd[i]?
      let jammerInd ← change notif.jammerInd i fun _ ↦ ind
      let gain ← pbGnssDataNotif.agc[i]?
      let agc ← change notif.agc i fun _ ↦ gain
      return ⟨gnssDataMask, jammerInd, agc⟩)
    arrMaxLen gnssDataNotif

structure GnssMeasurementsNotification (Meas Clock : Type) where
  count : ℕ
  measurements : Vector Meas GNSS_MEASUREMENTS_MAX
  clock : Clock
  deriving DecidableEq, Repr

structure PBGnssMeasurementsNotification (PBMeas PBClock : Type) where
  measurements : List PBMeas
  clock : PBClock
  deriving DecidableEq, Repr

def pbConvertToGnssMeasNotification (pbConvertToGnssMeasurementsData : PBMeas → Meas → Meas)
    (pbConvertToGnssMeasurementsClock : PBClock → Clock → Clock)
    (pbGnssMeasNotif : PBGnssMeasurementsNotification PBMeas PBClock)
    (gnssMeasNotif : GnssMeasurementsNotification Meas Clock) :
    Option (GnssMeasurementsNotification Meas Clock) := do
  let count := pbGnssMeasNotif.measurements.length
  let measurements ← copy pbConvertToGnssMeasurementsData pbGnssMeasNotif.measurements count
    gnssMeasNotif.measurements
  return ⟨count, measurements,
    pbConvertToGnssMeasurementsClock pbGnssMeasNotif.clock gnssMeasNotif.clock⟩

end Gnss

/-! ## Requests about geofences -/

section Geofences

def MAX_GEOFENCE_ENTRY : ℕ := 20

variable {ρ : Type}

structure GeofenceOption where
  breachTypeMask : UInt16
  responsiveness : UInt32
  dwellTime : UInt32
  deriving DecidableEq, Repr

structure PBGeofenceOption where
  breachTypeMask : UInt32
  responsiveness : UInt32
  dwellTime : UInt32
  deriving DecidableEq, Repr

def pbConvertToGeofenceOption (pbGfOpt : PBGeofenceOption) : GeofenceOption :=
  ⟨(getGfBreachTypeMaskFromPB pbGfOpt.breachTypeMask).toUInt16, pbGfOpt.responsiveness,
    pbGfOpt.dwellTime⟩

/-- Also `PBGeofenceInfo` -/
structure GeofenceInfo (ρ : Type) where
  latitude : ρ
  longitude : ρ
  radius : ρ
  deriving DecidableEq, Repr

structure GeofencePayload (ρ : Type) where
  gfClientId : UInt32
  gfOption : GeofenceOption
  gfInfo : GeofenceInfo ρ
  deriving DecidableEq, Repr

structure PBGeofencePayload (ρ : Type) where
  gfClientId : UInt32
  gfOption : PBGeofenceOption
  gfInfo : GeofenceInfo ρ
  deriving DecidableEq, Repr

structure GeofencesAddedReqPayload (ρ : Type) where
  count : ℕ
  gfPayload : Vector (GeofencePayload ρ) MAX_GEOFENCE_ENTRY
  deriving DecidableEq, Repr

structure PBGeofencesAddedReqPayload (ρ : Type) where
  gfPayload : List (PBGeofencePayload ρ)
  deriving DecidableEq, Repr

/-- For the requests to add and to modify geofences. -/
def pbConvertToGfAddReqPayload (pbGfAddReqPload : PBGeofencesAddedReqPayload ρ)
    (gfAddReqPload : GeofencesAddedReqPayload ρ) : Option (GeofencesAddedReqPayload ρ) := do
  let gfCount := pbGfAddReqPload.gfPayload.length
  let gfPayload ← copy
    (fun pb _ ↦ ⟨pb.gfClientId, pbConvertToGeofenceOption pb.gfOption, pb.gfInfo⟩)
    pbGfAddReqPload.gfPayload gfCount gfAddReqPload.gfPayload
  return ⟨gfCount, gfPayload⟩

structure GeofencesReqClientIdPayload where
  count : ℕ
  gfIds : Vector UInt32 MAX_GEOFENCE_ENTRY
  deriving DecidableEq, Repr

structure PBGeofencesReqClientIdPayload where
  gfIds : List UInt32
  deriving DecidableEq, Repr

/-- For the requests to remove, to pause and to resume geofences. -/
def pbConvertToGfReqClientIdPayload (pbGfReqClientIdPload : PBGeofencesReqClientIdPayload)
    (gfReqClientIdPload : GeofencesReqClientIdPayload) : Option GeofencesReqClientIdPayload := do
  let gfCount := pbGfReqClientIdPload.gfIds.length
  let gfIds ← copy (fun id _ ↦ id) pbGfReqClientIdPload.gfIds gfCount gfReqClientIdPload.gfIds
  return ⟨gfCount, gfIds⟩

end Geofences

end MataDevice.PbMsgConv
