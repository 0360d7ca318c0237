import MataDevice.Lib.Batches

/-!
# GNSS measurement indications

The modem reports the measurements of an epoch in several indications, one for each system or more,
which are numbered. `reportGnssMeasurementData` of `LocApiV02` collects their fresh measurements and
reports the collection when it has the indication with the last number, or when an indication shows
that the next epoch has begun: it has the first number, or its frame count is another than that of
the indication that began the last epoch. An indication of a system that is not known begins an
epoch too, but leaves the function before its measurements are collected.

A measurement stands here for what `convertGnssMeasurements` makes of it.
-/

namespace MataDevice.Measurements

/-- `qmiLocSvSystemEnumT_v02` -/
inductive QmiLocSvSystem
  | gps
  | galileo
  | sbas
  | compass
  | glonass
  | bds
  | qzss
  | navic
  | other (value : ℤ)
  deriving DecidableEq, Repr

inductive GnssLocSvSystem
  | unknown
  | gps
  | galileo
  | sbas
  | glonass
  | bds
  | qzss
  | navic
  deriving DecidableEq, Repr

def getLocApiSvSystemType : QmiLocSvSystem → GnssLocSvSystem
  | .gps => .gps
  | .galileo => .galileo
  | .sbas => .sbas
  | .glonass => .glonass
  | .bds | .compass => .bds
  | .qzss => .qzss
  | .navic => .navic
  | .other _ => .unknown

/-- `qmiLocSVMeasurementStructT_v02`, where `α` is what has been measured. -/
structure QmiLocSVMeasurement (α : Type) where
  gnssSvId : UInt16
  validMeasStatusMask : UInt64
  measurementStatus : UInt64
  measured : α
  deriving DecidableEq, Repr

def QMI_LOC_MASK_MEAS_STATUS_GNSS_FRESH_MEAS_STAT_BIT_VALID : UInt64 := 0x08000000

def QMI_LOC_MASK_MEAS_STATUS_GNSS_FRESH_MEAS_VALID : UInt64 := 0x08000000

/-- The measurement is not stale. -/
def QmiLocSVMeasurement.isFresh {α : Type} (m : QmiLocSVMeasurement α) : Bool :=
  m.validMeasStatusMask &&& QMI_LOC_MASK_MEAS_STATUS_GNSS_FRESH_MEAS_STAT_BIT_VALID != 0 &&
    m.measurementStatus &&& QMI_LOC_MASK_MEAS_STATUS_GNSS_FRESH_MEAS_VALID != 0

def QMI_LOC_SV_MEAS_LIST_MAX_SIZE : ℕ := 16

def QMI_LOC_EXT_SV_MEAS_LIST_MAX_SIZE : ℕ := 8

def GNSS_MEASUREMENTS_MAX : ℕ := 128

/-- An optional array of an indication, with its `_valid` and its `_len`. -/
structure QmiArray (β : Type) (size : ℕ) where
  valid : Bool
  len : UInt32
  elements : Vector β size
  deriving DecidableEq, Repr

namespace QmiArray

variable {β : Type} {size : ℕ} (a : QmiArray β size)

/-- Not empty, and with a length that the array can have. -/
def lenOk : Bool := a.len != 0 && a.len.toNat ≤ size

def used : List β := a.elements.toList.take a.len.toNat

end QmiArray

/-- `qmiLocEventGnssSvMeasInfoIndMsgT_v02`. An optional field is `none` when its `_valid` is
false. -/
structure GnssSvMeasInfoInd (α : Type) where
  seqNum : UInt8
  maxMessageNum : UInt8
  subSeqNum? : Option UInt8
  maxSubSeqNum? : Option UInt8
  system : QmiLocSvSystem
  /-- The flag is not asked when the frame count is stored. -/
  systemTimeExt_valid : Bool
  refFCount : UInt32
  nHzMeasurement? : Option Bool
  numClockResets_valid : Bool
  /-- `systemTime.systemMsec` -/
  systemMsec : UInt32
  jammerIndicator_valid : Bool
  svMeasurement : QmiArray (QmiLocSVMeasurement α) QMI_LOC_SV_MEAS_LIST_MAX_SIZE
  extSvMeasurement : QmiArray (QmiLocSVMeasurement α) QMI_LOC_EXT_SV_MEAS_LIST_MAX_SIZE
  deriving DecidableEq, Repr

namespace GnssSvMeasInfoInd

variable {α : Type} (ind : GnssSvMeasInfoInd α)

/-- `subSeqNum` and `maxSubSeqNum`, which count only together. -/
def subSeqNums : UInt8 × UInt8 :=
  match ind.subSeqNum?, ind.maxSubSeqNum? with
  | some subSeqNum, some maxSubSeqNum => (subSeqNum, maxSubSeqNum)
  | _, _ => (0, 0)

def subSeqNum : UInt8 := ind.subSeqNums.1

def maxSubSeqNum : UInt8 := ind.subSeqNums.2

end GnssSvMeasInfoInd

/-- A measurement that has been converted. -/
structure GnssMeasurementsData (α : Type) where
  gnssSystem : GnssLocSvSystem
  measurement : QmiLocSVMeasurement α
  deriving DecidableEq, Repr

/-- What is collected of an epoch: `mGnssMeasurements`, of which `measurements` has `count`
elements, with `mGPSreceived`, `mMsInWeek` and `mAgcIsPresent`. -/
structure GnssMeasurements (α : Type) where
  isNhz : Bool
  measurements : List (GnssMeasurementsData α)
  mGPSreceived : Bool
  mMsInWeek : ℤ
  mAgcIsPresent : Bool
  deriving DecidableEq, Repr

/-- What `LocApiBase::reportGnssMeasurements` is called with. -/
structure Report (α : Type) where
  isNhz : Bool
  measurements : List (GnssMeasurementsData α)
  msInWeek : ℤ
  deriving DecidableEq, Repr

namespace GnssMeasurements

variable {α : Type} (g : GnssMeasurements α) (ind : GnssSvMeasInfoInd α)

def resetSvMeasurementReport : GnssMeasurements α := ⟨false, [], false, -1, false⟩

def reportSvMeasurementInternal : Report α :=
  -- with AGC from QMI there is no need to get it from NMEA
  ⟨g.isNhz, g.measurements, if g.mAgcIsPresent then -1 else g.mMsInWeek⟩

/-- With whether AGC is present. -/
def convertGnssMeasurements (m : QmiLocSVMeasurement α) : GnssMeasurementsData α × Bool :=
  (⟨getLocApiSvSystemType ind.system, m⟩, ind.jammerIndicator_valid)

/-- The loop over the measurements of an array. -/
def addMeasurements (ind : GnssSvMeasInfoInd α) :
    GnssMeasurements α → List (QmiLocSVMeasurement α) → GnssMeasurements α
  | g, [] => g
  | g, m :: ms =>
    if g.measurements.length < GNSS_MEASUREMENTS_MAX then
      if m.isFresh then
        let (data, agc) := convertGnssMeasurements ind m
        addMeasurements ind
          { g with
            measurements := g.measurements ++ [data]
            mAgcIsPresent := g.mAgcIsPresent && agc } ms
      else addMeasurements ind g ms
    else g

/-- The part of `reportGnssMeasurementData` about the two arrays. -/
def collectMeasurements : GnssMeasurements α :=
  if ind.svMeasurement.valid then
    if ind.svMeasurement.lenOk then
      let g := if g.measurements.length = 0 then { g with mAgcIsPresent := true } else g
      let g := g.addMeasurements ind ind.svMeasurement.used
      if ind.extSvMeasurement.valid && ind.extSvMeasurement.lenOk then
        g.addMeasurements ind ind.extSvMeasurement.used
      else g
    else g
  else g

/-- What `convertGnssClock` returns. -/
def convertGnssClock : ℤ :=
  if ind.systemTimeExt_valid && ind.numClockResets_valid then
    ind.systemMsec.toBitVec.toInt
  else -1

/-- The GPS clock is read once. -/
def collectClock : GnssMeasurements α :=
  if ind.system = .gps && ind.subSeqNum ≤ 1 && !g.mGPSreceived then
    { g with mGPSreceived := true, mMsInWeek := convertGnssClock ind }
  else g

def collect : GnssMeasurements α := (g.collectMeasurements ind).collectClock ind

end GnssMeasurements

/-- `LocApiV02`, with the static variables of `reportGnssMeasurementData`. -/
structure LocApiV02 (α : Type) where
  mGnssMeasurements : Option (GnssMeasurements α)
  mRefFCount : UInt32
  mCounter : UInt32
  prevRefFCount : UInt32
  newMeasProcessed : Bool
  deriving DecidableEq, Repr

namespace LocApiV02

variable {α : Type} (s : LocApiV02 α) (ind : GnssSvMeasInfoInd α)

def init : LocApiV02 α := ⟨none, 0, 0, 0, false⟩

def collection : GnssMeasurements α :=
  s.mGnssMeasurements.getD GnssMeasurements.resetSvMeasurementReport

/-- The indication begins an epoch. -/
def begins : Bool :=
  (ind.seqNum = 1 && ind.subSeqNum ≤ 1) ||
    (ind.systemTimeExt_valid && ind.refFCount != s.prevRefFCount)

/-- The epoch before is reported, if it has not been. -/
def beginEpoch : LocApiV02 α × List (Report α) :=
  if s.begins ind then
    let g :=
      if s.newMeasProcessed then GnssMeasurements.resetSvMeasurementReport else s.collection
    ({ s with
        mGnssMeasurements := some { g with isNhz := g.isNhz || ind.nHzMeasurement?.getD false }
        mRefFCount := ind.refFCount
        mCounter := s.mCounter + 1
        prevRefFCount := ind.refFCount
        newMeasProcessed := false },
      if s.newMeasProcessed then [s.collection.reportSvMeasurementInternal] else [])
  else (s, [])

/-- What is done with an indication of a known system. -/
def collectInd : LocApiV02 α × List (Report α) :=
  let g := s.collection.collect ind
  if ind.maxMessageNum = ind.seqNum && ind.maxSubSeqNum = ind.subSeqNum then
    ({ s with
        mGnssMeasurements := some GnssMeasurements.resetSvMeasurementReport
        newMeasProcessed := false },
      [g.reportSvMeasurementInternal])
  else ({ s with mGnssMeasurements := some g, newMeasProcessed := true }, [])

/-- The first indication allocates the collection. -/
def allocate : LocApiV02 α :=
  if s.mGnssMeasurements.isNone then
    { s with
      mGnssMeasurements := some GnssMeasurements.resetSvMeasurementReport
      newMeasProcessed := false }
  else s

/-- With the reports that are made. -/
def reportGnssMeasurementData : LocApiV02 α × List (Report α) :=
  let s := s.allocate
  if ind.seqNum > ind.maxMessageNum || ind.subSeqNum > ind.maxSubSeqNum then (s, [])
  else
    let (s, reports) := s.beginEpoch ind
    if getLocApiSvSystemType ind.system = .unknown then (s, reports)
    else
      let (s, reports') := s.collectInd ind
      (s, reports ++ reports')

end LocApiV02

end MataDevice.Measurements
