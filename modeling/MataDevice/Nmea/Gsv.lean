import MataDevice.Nmea.Signals

/-!
# The GSV sentences of an SV report

`loc_nmea_generate_GSV` prints the sentences of one signal into a buffer, at most four satellites
into each. It counts how many sentences there will be from the number of satellites that were
counted for the signal, and walks over the report once for all of them. It gives up when a text does
not fit into the buffer; the buffer is large enough for every sentence.
-/

namespace MataDevice.Nmea

open MataDevice.Gnss (GnssSvType)
open MataDevice.Format (bytes signed hex snprintf)

/-- `NMEA_SENTENCE_MAX_LENGTH` -/
def nmeaSentenceMaxLength : ℕ := 200

/-! ## The texts -/

/-- `(int)(0.5 + x)` for a number of the report. What is out of the range of `int` becomes the
nearest number of it, as on the processors of the device. -/
def roundToInt (x : ℚ) : ℤ :=
  max (-2147483648) (min 2147483647 ((1 / 2 + x).num.tdiv (1 / 2 + x).den))

/-- The head of a sentence. -/
def gsvHead (talker : List UInt8) (sentenceCount sentenceNumber svCount : ℕ) : List UInt8 :=
  bytes ['$'] ++ talker ++ bytes ['G', 'S', 'V', ','] ++ signed 0 sentenceCount ++ bytes [','] ++
    signed 0 sentenceNumber ++ bytes [','] ++ signed 2 svCount

namespace GnssSv

/-- The id, the elevation and the azimuth of an SV, with separators; a GLONASS satellite may have an
unknown slot, `GLO_SV_PRN_SLOT_UNKNOWN`. -/
def positionText (sv : GnssSv) (svIdOffset : UInt32) : List UInt8 :=
  let svId :=
    if sv.type = .glonass ∧ sv.svId = 255 then []
    else signed 2 (sv.svId.toUInt32 - svIdOffset).toInt32.toInt
  bytes [','] ++ svId ++ bytes [','] ++ signed 2 (roundToInt sv.elevation) ++ bytes [','] ++
    signed 3 (roundToInt sv.azimuth) ++ bytes [',']

def cN0Text (sv : GnssSv) : List UInt8 := signed 2 (roundToInt sv.cN0Dbhz)

end GnssSv

/-- `loc_nmea_put_checksum` for a sentence that is no tag block: the sign at its start
is left out. -/
def locNmeaPutChecksum (sentence : List UInt8) (maxSize : ℕ) : List UInt8 :=
  let checksum := (sentence.drop 1).foldl (· ^^^ ·) 0
  let length := (sentence.drop 1).length
  sentence ++ snprintf (maxSize - length - 1) (bytes ['*'] ++ hex 2 checksum.toNat ++ [13, 10])

/-! ## The sentences of one signal -/

/-- One `snprintf` with its check; `none` when the text does not fit. -/
def print (bufSize : ℕ) (sentence text : List UInt8) : Option (List UInt8) :=
  if text.length ≥ bufSize - sentence.length then none else some (sentence ++ text)

namespace LocNmeaSvMeta

/-- Whether an SV of this constellation and with this signal is printed. -/
def selects (svMeta : LocNmeaSvMeta) (type : GnssSvType) (signalType : GnssSignalTypeMask) : Bool :=
  svMeta.svTypeMask &&& (1 <<< svTypeValue type) ≠ 0 &&
    svMeta.signalId = convertSignalTypeToSignalId signalType

/-- The inner loop of `loc_nmea_generate_GSV`, after `i` SVs of the sentence have been printed. It
returns the sentence, the offset, and the SVs that come after. -/
def printSvs (svMeta : LocNmeaSvMeta) (bufSize : ℕ) :
    ℕ → UInt32 → List UInt8 → List GnssSv → Option (List UInt8 × UInt32 × List GnssSv)
  | _, svIdOffset, sentence, [] => some (sentence, svIdOffset, [])
  | i, svIdOffset, sentence, sv :: svs =>
    if i < 4 then
      match sv.signalType with
      | none => printSvs svMeta bufSize i svIdOffset sentence svs
      | some signalType =>
        if svMeta.selects sv.type signalType then
          -- `SBAS_SV_ID_OFFSET`; the offset stays for the SVs that come after
          let svIdOffset := if sv.type = .sbas then 87 else svIdOffset
          match print bufSize sentence (sv.positionText svIdOffset) with
          | none => none
          | some sentence =>
            match if sv.cN0Dbhz > 0 then print bufSize sentence sv.cN0Text else some sentence with
            | none => none
            | some sentence => printSvs svMeta bufSize (i + 1) svIdOffset sentence svs
        else printSvs svMeta bufSize i svIdOffset sentence svs
    else some (sentence, svIdOffset, sv :: svs)

/-- The outer loop of `loc_nmea_generate_GSV`, with `left` sentences to print. -/
def printSentences (svMeta : LocNmeaSvMeta) (bufSize sentenceCount : ℕ) :
    ℕ → UInt32 → List GnssSv → List (List UInt8)
  | 0, _, _ => []
  | left + 1, svIdOffset, svs =>
    let head := gsvHead svMeta.talker sentenceCount (sentenceCount - left) svMeta.svCount
    match (print bufSize [] head).bind fun sentence ↦
        svMeta.printSvs bufSize 0 svIdOffset sentence svs with
    | none => []
    | some (sentence, svIdOffset, svs) =>
      let sentence := sentence ++
        snprintf (bufSize - sentence.length) (bytes [','] ++ hex 0 svMeta.signalId.toNat)
      locNmeaPutChecksum sentence bufSize ::
        svMeta.printSentences bufSize sentenceCount left svIdOffset svs

/-- The offset at the start; the ids of GLONASS are printed as they are. -/
def startOffset (svMeta : LocNmeaSvMeta) : UInt32 :=
  if (1 <<< svTypeValue .glonass) &&& svMeta.svTypeMask ≠ 0 then 0 else svMeta.svIdOffset

def sentenceCount (svMeta : LocNmeaSvMeta) : ℕ :=
  svMeta.svCount / 4 + if svMeta.svCount % 4 ≠ 0 then 1 else 0

/-- `loc_nmea_generate_GSV` -/
def locNmeaGenerateGSV (svMeta : LocNmeaSvMeta) (svNotify : GnssSvNotification) (bufSize : ℕ) :
    List (List UInt8) :=
  if svMeta.svCount ≤ 0 then []
  else
    svMeta.printSentences bufSize svMeta.sentenceCount svMeta.sentenceCount svMeta.startOffset
      svNotify.gnssSvs

end LocNmeaSvMeta

/-! ## All sentences -/

/-- The signals for which there are sentences, in their order. -/
inductive GsvSignal
  | gpsL1ca
  | gpsL5
  | gpsL2
  | glonassG1
  | glonassG2
  | galileoE1
  | galileoE5a
  | galileoE5b
  | qzssL1ca
  | qzssL5
  | qzssL2
  | beidouB1i
  | beidouB1c
  | beidouB2ai
  | navicL5
  deriving DecidableEq, Repr

namespace GsvSignal

def all : List GsvSignal :=
  [gpsL1ca, gpsL5, gpsL2, glonassG1, glonassG2, galileoE1, galileoE5a, galileoE5b, qzssL1ca, qzssL5,
    qzssL2, beidouB1i, beidouB1c, beidouB2ai, navicL5]

def svType : GsvSignal → GnssSvType
  | gpsL1ca | gpsL5 | gpsL2 => .gps
  | glonassG1 | glonassG2 => .glonass
  | galileoE1 | galileoE5a | galileoE5b => .galileo
  | qzssL1ca | qzssL5 | qzssL2 => .qzss
  | beidouB1i | beidouB1c | beidouB2ai => .beidou
  | navicL5 => .navic

def signal : GsvSignal → GnssSignal
  | gpsL1ca => .gpsL1ca
  | gpsL5 => .gpsL5
  | gpsL2 => .gpsL2
  | glonassG1 => .glonassG1
  | glonassG2 => .glonassG2
  | galileoE1 => .galileoE1
  | galileoE5a => .galileoE5a
  | galileoE5b => .galileoE5b
  | qzssL1ca => .qzssL1ca
  | qzssL5 => .qzssL5
  | qzssL2 => .qzssL2
  | beidouB1i => .beidouB1i
  | beidouB1c => .beidouB1c
  | beidouB2ai => .beidouB2ai
  | navicL5 => .navicL5

end GsvSignal

/-- The counts of a report. -/
def GnssSvNotification.cacheInfo (svNotify : GnssSvNotification) : LocSvCacheInfo :=
  svNotify.gnssSvs.foldl LocSvCacheInfo.countSv .zero

/-- `loc_nmea_generate_sv`: the sentences that are added to the array. -/
def locNmeaGenerateSv (svNotify : GnssSvNotification) : List (List UInt8) :=
  GsvSignal.all.flatMap fun signal ↦
    match svNotify.cacheInfo.locNmeaSvMetaInit signal.svType signal.signal.mask false with
    | none => []
    | some svMeta => svMeta.locNmeaGenerateGSV svNotify nmeaSentenceMaxLength

end MataDevice.Nmea
