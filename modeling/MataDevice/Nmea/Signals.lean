import MataDevice.Gnss.ConfigFlags
import MataDevice.Lib.Format

/-!
# The signals of an SV report

An SV report lists satellites, each with its constellation and a mask for the signal that is
tracked. `loc_nmea_generate_sv` goes through the report twice. First it counts the satellites of
each signal for which there are sentences; here a mask is compared with the signals that are counted
apart, and every other mask counts as the default signal of the constellation. When it prints the
sentences of a signal, it translates the mask into the signal id of the standard and takes the
satellites with the id of the sentences.
-/

namespace MataDevice.Nmea

open MataDevice.Gnss (GnssSvType)
open MataDevice.Format (bytes)

/-! ## Signals -/

/-- `GnssSignalTypeMask` -/
abbrev GnssSignalTypeMask := UInt32

/-- `GnssSignalTypeBits` -/
inductive GnssSignal
  | gpsL1ca
  | gpsL1c
  | gpsL2
  | gpsL5
  | glonassG1
  | glonassG2
  | galileoE1
  | galileoE5a
  | galileoE5b
  | beidouB1
  | beidouB2
  | qzssL1ca
  | qzssL1s
  | qzssL2
  | qzssL5
  | sbasL1
  | beidouB1i
  | beidouB1c
  | beidouB2i
  | beidouB2ai
  | navicL5
  | beidouB2aq
  deriving DecidableEq, Repr

/-- The bit of a signal in the mask. -/
def GnssSignal.bit : GnssSignal → GnssSignalTypeMask
  | gpsL1ca => 0
  | gpsL1c => 1
  | gpsL2 => 2
  | gpsL5 => 3
  | glonassG1 => 4
  | glonassG2 => 5
  | galileoE1 => 6
  | galileoE5a => 7
  | galileoE5b => 8
  | beidouB1 => 9
  | beidouB2 => 10
  | qzssL1ca => 11
  | qzssL1s => 12
  | qzssL2 => 13
  | qzssL5 => 14
  | sbasL1 => 15
  | beidouB1i => 16
  | beidouB1c => 17
  | beidouB2i => 18
  | beidouB2ai => 19
  | navicL5 => 20
  | beidouB2aq => 21

def GnssSignal.mask (signal : GnssSignal) : GnssSignalTypeMask := 1 <<< signal.bit

-- The signal ids of the standard; the ids of different constellations overlap.
namespace SignalId

def allSignals : UInt32 := 0
def gpsL1ca : UInt32 := 1
def gpsL2cl : UInt32 := 6
def gpsL5q : UInt32 := 8
def gloG1ca : UInt32 := 1
def gloG2ca : UInt32 := 3
def galE5a : UInt32 := 1
def galE5b : UInt32 := 2
def galL1bc : UInt32 := 7
def bdsB1i : UInt32 := 1
def bdsB1c : UInt32 := 3
def bdsB2a : UInt32 := 5
def bdsB2i : UInt32 := 0xB
def qzssL1ca : UInt32 := 1
def qzssL2cl : UInt32 := 6
def qzssL5q : UInt32 := 8
def navicL5sps : UInt32 := 1

end SignalId

/-- `convert_signalType_to_signalId` -/
def convertSignalTypeToSignalId (signalType : GnssSignalTypeMask) : UInt32 :=
  if signalType = GnssSignal.gpsL1ca.mask ∨ signalType = GnssSignal.sbasL1.mask then
    SignalId.gpsL1ca
  else if signalType = GnssSignal.gpsL2.mask then SignalId.gpsL2cl
  else if signalType = GnssSignal.gpsL5.mask then SignalId.gpsL5q
  else if signalType = GnssSignal.glonassG1.mask then SignalId.gloG1ca
  else if signalType = GnssSignal.glonassG2.mask then SignalId.gloG2ca
  else if signalType = GnssSignal.galileoE1.mask then SignalId.galL1bc
  else if signalType = GnssSignal.galileoE5a.mask then SignalId.galE5a
  else if signalType = GnssSignal.galileoE5b.mask then SignalId.galE5b
  else if signalType = GnssSignal.qzssL1ca.mask then SignalId.qzssL1ca
  else if signalType = GnssSignal.qzssL2.mask then SignalId.qzssL2cl
  else if signalType = GnssSignal.qzssL5.mask then SignalId.qzssL5q
  else if signalType = GnssSignal.beidouB1i.mask then SignalId.bdsB1i
  else if signalType = GnssSignal.beidouB1c.mask then SignalId.bdsB1c
  else if signalType = GnssSignal.beidouB2i.mask then SignalId.bdsB2i
  else if signalType = GnssSignal.beidouB2ai.mask ∨ signalType = GnssSignal.beidouB2aq.mask then
    SignalId.bdsB2a
  else if signalType = GnssSignal.navicL5.mask then SignalId.navicL5sps
  else SignalId.allSignals

/-! ## The report -/

/-- The value of a constellation in the enumeration. -/
def svTypeValue : GnssSvType → UInt32
  | .unknown => 0
  | .gps => 1
  | .sbas => 2
  | .glonass => 3
  | .qzss => 4
  | .beidou => 5
  | .galileo => 6
  | .navic => 7

/-- `GnssSv`, as far as the sentences use it. -/
structure GnssSv where
  svId : UInt16
  type : GnssSvType
  cN0Dbhz : ℚ
  elevation : ℚ
  azimuth : ℚ
  /-- `GNSS_SV_OPTIONS_USED_IN_FIX_BIT` of `gnssSvOptionsMask` -/
  usedInFix : Bool
  gnssSignalTypeMask : GnssSignalTypeMask
  deriving DecidableEq, Repr

/-- `GNSS_SV_MAX` -/
def gnssSvMax : ℕ := 128

structure GnssSvNotification where
  gnssSvs : List GnssSv
  count_le : gnssSvs.length ≤ gnssSvMax

/-- The signal of an SV; if there is none in the report, it is the default one. -/
def GnssSv.signalType (sv : GnssSv) : Option GnssSignalTypeMask :=
  if sv.gnssSignalTypeMask = 0 then
    match sv.type with
    | .gps => some GnssSignal.gpsL1ca.mask
    | .glonass => some GnssSignal.glonassG1.mask
    | .galileo => some GnssSignal.galileoE1.mask
    | .qzss => some GnssSignal.qzssL1ca.mask
    | .beidou => some GnssSignal.beidouB1i.mask
    | .sbas => some GnssSignal.sbasL1.mask
    | .navic => some GnssSignal.navicL5.mask
    | .unknown => none
  else some sv.gnssSignalTypeMask

/-! ## Counting -/

/-- `loc_sv_cache_info`, without the dilutions of precision. -/
structure LocSvCacheInfo where
  gpsUsedMask : UInt64
  gloUsedMask : UInt64
  galUsedMask : UInt64
  qzssUsedMask : UInt64
  bdsUsedMask : UInt64
  navicUsedMask : UInt64
  gpsL1Count : ℕ
  gpsL2Count : ℕ
  gpsL5Count : ℕ
  gloG1Count : ℕ
  gloG2Count : ℕ
  galE1Count : ℕ
  galE5Count : ℕ
  galE5bCount : ℕ
  qzssL1Count : ℕ
  qzssL2Count : ℕ
  qzssL5Count : ℕ
  bdsB1iCount : ℕ
  bdsB1cCount : ℕ
  bdsB2Count : ℕ
  navicL5Count : ℕ
  deriving DecidableEq, Repr

def LocSvCacheInfo.zero : LocSvCacheInfo :=
  ⟨0, 0, 0, 0, 0, 0, 0, 0, 0, 0, 0, 0, 0, 0, 0, 0, 0, 0, 0, 0, 0⟩

/-- `setSvMask` -/
def setSvMask (mask : UInt64) (svIdOneBase : UInt16) : UInt64 :=
  if 1 ≤ svIdOneBase ∧ svIdOneBase ≤ 64 then mask ||| (1 <<< (svIdOneBase - 1).toUInt64) else mask

/-- The body of the loop that counts. -/
def LocSvCacheInfo.countSv (info : LocSvCacheInfo) (sv : GnssSv) : LocSvCacheInfo :=
  match sv.type with
  | .gps | .sbas =>
    if sv.gnssSignalTypeMask = GnssSignal.gpsL5.mask then
      { info with gpsL5Count := info.gpsL5Count + 1 }
    else if sv.gnssSignalTypeMask = GnssSignal.gpsL2.mask then
      { info with gpsL2Count := info.gpsL2Count + 1 }
    else { info with gpsL1Count := info.gpsL1Count + 1 }
  | .glonass =>
    if sv.gnssSignalTypeMask = GnssSignal.glonassG2.mask then
      { info with gloG2Count := info.gloG2Count + 1 }
    else { info with gloG1Count := info.gloG1Count + 1 }
  | .galileo =>
    if sv.gnssSignalTypeMask = GnssSignal.galileoE5a.mask then
      { info with galE5Count := info.galE5Count + 1 }
    else if sv.gnssSignalTypeMask = GnssSignal.galileoE5b.mask then
      { info with galE5bCount := info.galE5bCount + 1 }
    else { info with galE1Count := info.galE1Count + 1 }
  | .qzss =>
    if sv.gnssSignalTypeMask = GnssSignal.qzssL5.mask then
      { info with qzssL5Count := info.qzssL5Count + 1 }
    else if sv.gnssSignalTypeMask = GnssSignal.qzssL2.mask then
      { info with qzssL2Count := info.qzssL2Count + 1 }
    else { info with qzssL1Count := info.qzssL1Count + 1 }
  | .beidou =>
    let info :=
      if sv.usedInFix then { info with bdsUsedMask := setSvMask info.bdsUsedMask sv.svId } else info
    if sv.gnssSignalTypeMask = GnssSignal.beidouB2ai.mask ∨
        sv.gnssSignalTypeMask = GnssSignal.beidouB2aq.mask then
      { info with bdsB2Count := info.bdsB2Count + 1 }
    else if sv.gnssSignalTypeMask = GnssSignal.beidouB1c.mask then
      { info with bdsB1cCount := info.bdsB1cCount + 1 }
    else { info with bdsB1iCount := info.bdsB1iCount + 1 }
  | .navic => { info with navicL5Count := info.navicL5Count + 1 }
  | .unknown => info

/-- `get_sv_count_from_mask` -/
def getSvCountFromMask (svMask : UInt64) : ℕ → ℕ
  | 0 => 0
  | totalSvCount + 1 =>
    (if svMask &&& 1 ≠ 0 then 1 else 0) + getSvCountFromMask (svMask >>> 1) totalSvCount

/-! ## The sentences of a signal -/

/-- `loc_nmea_sv_meta`, about one kind of sentences. -/
structure LocNmeaSvMeta where
  talker : List UInt8
  svTypeMask : UInt32
  mask : UInt64
  svCount : ℕ
  totalSvUsedCount : ℕ
  svIdOffset : UInt32
  signalId : UInt32
  systemId : ℕ
  deriving DecidableEq, Repr

namespace LocSvCacheInfo

variable (info : LocSvCacheInfo)

/-- The SVs of all constellations that are used, each constellation with its number of SVs. -/
def totalSvUsedCount : ℕ :=
  getSvCountFromMask info.gpsUsedMask (32 - 1 + 1) +
    getSvCountFromMask info.gloUsedMask (96 - 65 + 1) +
    getSvCountFromMask info.galUsedMask (336 - 301 + 1) +
    getSvCountFromMask info.qzssUsedMask (197 - 193 + 1) +
    getSvCountFromMask info.bdsUsedMask (263 - 201 + 1) +
    getSvCountFromMask info.navicUsedMask (414 - 401 + 1)

/-- How many constellations are used. -/
def usedConstellations : ℕ :=
  ([info.gpsUsedMask, info.gloUsedMask, info.galUsedMask, info.qzssUsedMask, info.bdsUsedMask,
    info.navicUsedMask].filter (· ≠ 0)).length

/-- `loc_nmea_sv_meta_init` -/
def locNmeaSvMetaInit (svType : GnssSvType) (signalType : GnssSignalTypeMask) (needCombine : Bool) :
    Option LocNmeaSvMeta :=
  let finish (talker : List Char) (svTypeMask : UInt32) (mask : UInt64) (svCount : ℕ)
      (svIdOffset : UInt32) (systemId : ℕ) : Option LocNmeaSvMeta :=
    some {
      talker := bytes (if needCombine ∧ info.usedConstellations > 1 then ['G', 'N'] else talker)
      svTypeMask := svTypeMask
      mask := mask
      svCount := svCount
      totalSvUsedCount := info.totalSvUsedCount
      svIdOffset := svIdOffset
      signalId := convertSignalTypeToSignalId signalType
      systemId := systemId }
  match svType with
  | .gps =>
    finish ['G', 'P'] (1 <<< svTypeValue .gps ||| 1 <<< svTypeValue .sbas) info.gpsUsedMask
      (if signalType = GnssSignal.gpsL1ca.mask then info.gpsL1Count
      else if signalType = GnssSignal.gpsL5.mask then info.gpsL5Count
      else if signalType = GnssSignal.gpsL2.mask then info.gpsL2Count
      else 0) 0 1
  | .glonass =>
    finish ['G', 'L'] (1 <<< svTypeValue .glonass) info.gloUsedMask
      (if signalType = GnssSignal.glonassG1.mask then info.gloG1Count
      else if signalType = GnssSignal.glonassG2.mask then info.gloG2Count
      else 0) 64 2
  | .galileo =>
    finish ['G', 'A'] (1 <<< svTypeValue .galileo) info.galUsedMask
      (if signalType = GnssSignal.galileoE1.mask then info.galE1Count
      else if signalType = GnssSignal.galileoE5a.mask then info.galE5Count
      else if signalType = GnssSignal.galileoE5b.mask then info.galE5bCount
      else 0) 300 3
  | .qzss =>
    finish ['G', 'Q'] (1 <<< svTypeValue .qzss) info.qzssUsedMask
      (if signalType = GnssSignal.qzssL1ca.mask then info.qzssL1Count
      else if signalType = GnssSignal.qzssL2.mask then info.qzssL2Count
      else if signalType = GnssSignal.qzssL5.mask then info.qzssL5Count
      else 0) 192 5
  | .beidou =>
    finish ['G', 'B'] (1 <<< svTypeValue .beidou) info.bdsUsedMask
      (if signalType = GnssSignal.beidouB1i.mask then info.bdsB1iCount
      else if signalType = GnssSignal.beidouB1c.mask then info.bdsB1cCount
      else if signalType = GnssSignal.beidouB2ai.mask then info.bdsB2Count
      else 0) 200 4
  | .navic =>
    finish ['G', 'I'] (1 <<< svTypeValue .navic) info.navicUsedMask
      (if signalType = GnssSignal.navicL5.mask then info.navicL5Count else 0) 400 6
  | .unknown | .sbas => none

end LocSvCacheInfo

end MataDevice.Nmea
