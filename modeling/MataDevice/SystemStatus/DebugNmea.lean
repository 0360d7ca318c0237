import MataDevice.Lib.Numerals

/-!
# Debug sentences

The engine reports its state in sentences of its own, which begin with `$PQW`. Such a sentence has
fields with commas between them, and a checksum after an asterisk. There is a parser for each type
of sentence. It reads the fields by their indices if there are enough of them, and leaves its
members alone if not. The members were not set before, except for those of the first type, which are
cleared. What they are then is a parameter, `uninit`.

The text that is parsed is a string that ends with a zero byte, as the copy in `setNmeaString` is.
Floating-point numbers are of a type with the operations that are used. What of their comparison
matters is that zero is equal to itself, and that for each number there is one that is not.
-/

namespace MataDevice.SystemStatus

open Numerals (strtol strtoull atoi)

/-! ## Fields -/

def DEBUG_NMEA_MINSIZE : UInt32 := 6
def DEBUG_NMEA_MAXSIZE : UInt32 := 4096

/-- The string at a pointer -/
def cString (data : List UInt8) : List UInt8 := data.takeWhile (· ≠ 0)

/-- `$PQW` -/
def loc_nmea_is_debug (nmea : List UInt8) (length : UInt32) : Bool :=
  DEBUG_NMEA_MINSIZE ≤ length && length ≤ DEBUG_NMEA_MAXSIZE &&
    [36, 80, 81, 87].isPrefixOf (cString nmea)

/-- The parts before each comma. `str` is what was read of the first one. -/
def tokenize : List UInt8 → List UInt8 → List (List UInt8)
  | [], _ => []
  | c :: parser, str => if c = 44 then str :: tokenize parser [] else tokenize parser (str ++ [c])

/-- `mField` after the constructor of `SystemStatusNmeaBase`. The asterisk is a comma, too. -/
def fields (str_in : List UInt8) (len_in : UInt32) : List (List UInt8) :=
  if !loc_nmea_is_debug str_in len_in then []
  else
    let parser := cString str_in
    match parser.idxOf? 42 with
    | none => []
    | some index => tokenize (parser.set index 44) []

/-! ## Floating-point numbers -/

class Floats (ρ : Type) extends BEq ρ where
  zero : ρ
  atof : List UInt8 → ρ
  /-- Rounded to single precision -/
  toFloat : ρ → ρ
  ofInt : Int32 → ρ
  zero_beq_zero : (zero == zero) = true
  exists_ne : ∀ x : ρ, ∃ y, (x == y) = false ∧ x ≠ y

/-! ## Parsers -/

variable {ρ : Type} [Floats ρ]

open Floats (zero atof toFloat ofInt)

structure SystemStatusPQWM1 (ρ : Type) where
  mGpsWeek : UInt16
  mGpsTowMs : UInt32
  mTimeValid : UInt8
  mTimeSource : UInt8
  mTimeUnc : Int32
  mClockFreqBias : Int32
  mClockFreqBiasUnc : Int32
  mXoState : UInt8
  mPgaGain : Int32
  mGpsBpAmpI : UInt32
  mGpsBpAmpQ : UInt32
  mAdcI : UInt32
  mAdcQ : UInt32
  mJammerGps : UInt32
  mJammerGlo : UInt32
  mJammerBds : UInt32
  mJammerGal : UInt32
  mRecErrorRecovery : UInt32
  mAgcGps : ρ
  mAgcGlo : ρ
  mAgcBds : ρ
  mAgcGal : ρ
  mLeapSeconds : Int32
  mLeapSecUnc : Int32
  mGloBpAmpI : UInt32
  mGloBpAmpQ : UInt32
  mBdsBpAmpI : UInt32
  mBdsBpAmpQ : UInt32
  mGalBpAmpI : UInt32
  mGalBpAmpQ : UInt32
  mTimeUncNs : UInt64

/-- After `memset` -/
def SystemStatusPQWM1.cleared : SystemStatusPQWM1 ρ where
  mGpsWeek := 0
  mGpsTowMs := 0
  mTimeValid := 0
  mTimeSource := 0
  mTimeUnc := 0
  mClockFreqBias := 0
  mClockFreqBiasUnc := 0
  mXoState := 0
  mPgaGain := 0
  mGpsBpAmpI := 0
  mGpsBpAmpQ := 0
  mAdcI := 0
  mAdcQ := 0
  mJammerGps := 0
  mJammerGlo := 0
  mJammerBds := 0
  mJammerGal := 0
  mRecErrorRecovery := 0
  mAgcGps := zero
  mAgcGlo := zero
  mAgcBds := zero
  mAgcGal := zero
  mLeapSeconds := 0
  mLeapSecUnc := 0
  mGloBpAmpI := 0
  mGloBpAmpQ := 0
  mBdsBpAmpI := 0
  mBdsBpAmpQ := 0
  mGalBpAmpI := 0
  mGalBpAmpQ := 0
  mTimeUncNs := 0

structure SystemStatusPQWP1 (ρ : Type) where
  mEpiValidity : UInt8
  mEpiLat : ρ
  mEpiLon : ρ
  mEpiAlt : ρ
  mEpiHepe : ρ
  mEpiAltUnc : ρ
  mEpiSrc : UInt8

structure SystemStatusPQWP2 (ρ : Type) where
  mBestLat : ρ
  mBestLon : ρ
  mBestAlt : ρ
  mBestHepe : ρ
  mBestAltUnc : ρ

structure SystemStatusPQWP3 where
  mXtraValidMask : UInt8
  mGpsXtraAge : UInt32
  mGloXtraAge : UInt32
  mBdsXtraAge : UInt32
  mGalXtraAge : UInt32
  mQzssXtraAge : UInt32
  mNavicXtraAge : UInt32
  mGpsXtraValid : UInt32
  mGloXtraValid : UInt32
  mBdsXtraValid : UInt64
  mGalXtraValid : UInt64
  mQzssXtraValid : UInt8
  mNavicXtraValid : UInt32
  deriving DecidableEq, Repr

structure SystemStatusPQWP4 where
  mGpsEpheValid : UInt32
  mGloEpheValid : UInt32
  mBdsEpheValid : UInt64
  mGalEpheValid : UInt64
  mQzssEpheValid : UInt8
  deriving DecidableEq, Repr

/-- The masks of the constellations -/
structure SvMasks where
  gps : UInt32
  glo : UInt32
  bds : UInt64
  gal : UInt64
  qzss : UInt8
  navic : UInt32
  deriving DecidableEq, Repr

/-- The members `m...UnknownMask`, `m...GoodMask` and `m...BadMask` -/
structure SystemStatusPQWP5 where
  unknownMask : SvMasks
  goodMask : SvMasks
  badMask : SvMasks
  deriving DecidableEq, Repr

structure SystemStatusPQWP6 where
  mFixInfoMask : UInt32
  deriving DecidableEq, Repr

/-- The enumerations are held by an `int`. -/
structure SystemStatusNav where
  mType : Int32
  mSource : Int32
  mAgeSec : Int32
  deriving DecidableEq, Repr

def SV_ALL_NUM_MIN : ℕ := 134
def SV_ALL_NUM : ℕ := 148

structure SystemStatusPQWP7 where
  mNav : Vector SystemStatusNav SV_ALL_NUM
  deriving DecidableEq, Repr

structure SystemStatusPQWS1 where
  mFixInfoMask : UInt32
  mHepeLimit : UInt32
  deriving DecidableEq, Repr

section Decode

variable (mField : List (List UInt8))

/-- The text of a field -/
def field (i : ℕ) : List UInt8 := mField.getD i []

def decodePQWM1 : SystemStatusPQWM1 ρ :=
  let mM1 : SystemStatusPQWM1 ρ := { (SystemStatusPQWM1.cleared : SystemStatusPQWM1 ρ) with
    mGpsWeek := (atoi (field mField 1)).toUInt32.toUInt16
    mGpsTowMs := (atoi (field mField 2)).toUInt32
    mTimeValid := (atoi (field mField 3)).toUInt32.toUInt8
    mTimeSource := (atoi (field mField 4)).toUInt32.toUInt8
    mTimeUnc := atoi (field mField 5)
    mClockFreqBias := atoi (field mField 6)
    mClockFreqBiasUnc := atoi (field mField 7)
    mXoState := (atoi (field mField 8)).toUInt32.toUInt8
    mPgaGain := atoi (field mField 9)
    mGpsBpAmpI := (atoi (field mField 10)).toUInt32
    mGpsBpAmpQ := (atoi (field mField 11)).toUInt32
    mAdcI := (atoi (field mField 12)).toUInt32
    mAdcQ := (atoi (field mField 13)).toUInt32
    mJammerGps := (atoi (field mField 14)).toUInt32
    mJammerGlo := (atoi (field mField 15)).toUInt32
    mJammerBds := (atoi (field mField 16)).toUInt32
    mJammerGal := (atoi (field mField 17)).toUInt32
    mRecErrorRecovery := (atoi (field mField 18)).toUInt32
    mAgcGps := atof (field mField 19)
    mAgcGlo := atof (field mField 20)
    mAgcBds := atof (field mField 21)
    mAgcGal := atof (field mField 22) }
  let mM1 := if mField.length > 24 then
      { mM1 with
        mLeapSeconds := atoi (field mField 23)
        mLeapSecUnc := atoi (field mField 24) }
    else mM1
  let mM1 := if mField.length > 30 then
      { mM1 with
        mGloBpAmpI := (atoi (field mField 25)).toUInt32
        mGloBpAmpQ := (atoi (field mField 26)).toUInt32
        mBdsBpAmpI := (atoi (field mField 27)).toUInt32
        mBdsBpAmpQ := (atoi (field mField 28)).toUInt32
        mGalBpAmpI := (atoi (field mField 29)).toUInt32
        mGalBpAmpQ := (atoi (field mField 30)).toUInt32 }
    else mM1
  if mField.length > 31 then { mM1 with mTimeUncNs := strtoull 10 (field mField 31) } else mM1

def decodePQWP1 : SystemStatusPQWP1 ρ where
  mEpiValidity := UInt8.ofInt (strtol 16 (field mField 2))
  mEpiLat := toFloat (atof (field mField 3))
  mEpiLon := toFloat (atof (field mField 4))
  mEpiAlt := toFloat (atof (field mField 5))
  -- an integer, unlike the others
  mEpiHepe := toFloat (ofInt (atoi (field mField 6)))
  mEpiAltUnc := toFloat (atof (field mField 7))
  mEpiSrc := (atoi (field mField 8)).toUInt32.toUInt8

def decodePQWP2 : SystemStatusPQWP2 ρ where
  mBestLat := toFloat (atof (field mField 2))
  mBestLon := toFloat (atof (field mField 3))
  mBestAlt := toFloat (atof (field mField 4))
  mBestHepe := toFloat (atof (field mField 5))
  mBestAltUnc := toFloat (atof (field mField 6))

def decodePQWP3 : SystemStatusPQWP3 where
  mXtraValidMask := UInt8.ofInt (strtol 16 (field mField 2))
  mGpsXtraAge := (atoi (field mField 3)).toUInt32
  mGloXtraAge := (atoi (field mField 4)).toUInt32
  mBdsXtraAge := (atoi (field mField 5)).toUInt32
  mGalXtraAge := (atoi (field mField 6)).toUInt32
  mQzssXtraAge := (atoi (field mField 7)).toUInt32
  mNavicXtraAge := 0
  mGpsXtraValid := UInt32.ofInt (strtol 16 (field mField 8))
  mGloXtraValid := UInt32.ofInt (strtol 16 (field mField 9))
  mBdsXtraValid := UInt64.ofInt (strtol 16 (field mField 10))
  mGalXtraValid := UInt64.ofInt (strtol 16 (field mField 11))
  mQzssXtraValid := UInt8.ofInt (strtol 16 (field mField 12))
  mNavicXtraValid := 0

def decodePQWP4 : SystemStatusPQWP4 where
  mGpsEpheValid := UInt32.ofInt (strtol 16 (field mField 2))
  mGloEpheValid := UInt32.ofInt (strtol 16 (field mField 3))
  mBdsEpheValid := UInt64.ofInt (strtol 16 (field mField 4))
  mGalEpheValid := UInt64.ofInt (strtol 16 (field mField 5))
  mQzssEpheValid := UInt8.ofInt (strtol 16 (field mField 6))

/-- The masks in five fields. NavIC has none. -/
def decodeMasks (first : ℕ) : SvMasks where
  gps := UInt32.ofInt (strtol 16 (field mField first))
  glo := UInt32.ofInt (strtol 16 (field mField (first + 1)))
  bds := UInt64.ofInt (strtol 16 (field mField (first + 2)))
  gal := UInt64.ofInt (strtol 16 (field mField (first + 3)))
  qzss := UInt8.ofInt (strtol 16 (field mField (first + 4)))
  navic := 0

def decodePQWP5 : SystemStatusPQWP5 where
  unknownMask := decodeMasks mField 2
  goodMask := decodeMasks mField 7
  badMask := decodeMasks mField 12

def decodePQWP6 : SystemStatusPQWP6 where
  mFixInfoMask := UInt32.ofInt (strtol 16 (field mField 2))

/-- Without NavIC if there are not enough fields for it. What is not read is cleared. -/
def decodePQWP7 : SystemStatusPQWP7 where
  mNav := Vector.ofFn fun i ↦
    if i.val < (if mField.length < 2 + SV_ALL_NUM * 3 then SV_ALL_NUM_MIN else SV_ALL_NUM) then
      ⟨atoi (field mField (i * 3 + 2)), atoi (field mField (i * 3 + 3)),
        atoi (field mField (i * 3 + 4))⟩
    else ⟨0, 0, 0⟩

def decodePQWS1 : SystemStatusPQWS1 where
  mFixInfoMask := (atoi (field mField 2)).toUInt32
  mHepeLimit := (atoi (field mField 3)).toUInt32

/-- A parser that needs a number of fields -/
def parser {α : Type} (eMax : ℕ) (decode : List (List UInt8) → α) (uninit : α) : α :=
  if mField.length < eMax then uninit else decode mField

/-- Its members are cleared first. -/
def SystemStatusPQWM1parser : SystemStatusPQWM1 ρ :=
  parser mField 23 decodePQWM1 SystemStatusPQWM1.cleared

def SystemStatusPQWP1parser (uninit : SystemStatusPQWP1 ρ) : SystemStatusPQWP1 ρ :=
  parser mField 9 decodePQWP1 uninit

def SystemStatusPQWP2parser (uninit : SystemStatusPQWP2 ρ) : SystemStatusPQWP2 ρ :=
  parser mField 7 decodePQWP2 uninit

def SystemStatusPQWP3parser (uninit : SystemStatusPQWP3) : SystemStatusPQWP3 :=
  parser mField 13 decodePQWP3 uninit

def SystemStatusPQWP4parser (uninit : SystemStatusPQWP4) : SystemStatusPQWP4 :=
  parser mField 7 decodePQWP4 uninit

def SystemStatusPQWP5parser (uninit : SystemStatusPQWP5) : SystemStatusPQWP5 :=
  parser mField 17 decodePQWP5 uninit

def SystemStatusPQWP6parser (uninit : SystemStatusPQWP6) : SystemStatusPQWP6 :=
  parser mField 3 decodePQWP6 uninit

def SystemStatusPQWP7parser (uninit : SystemStatusPQWP7) : SystemStatusPQWP7 :=
  parser mField (2 + SV_ALL_NUM_MIN * 3) decodePQWP7 uninit

def SystemStatusPQWS1parser (uninit : SystemStatusPQWS1) : SystemStatusPQWS1 :=
  parser mField 4 decodePQWS1 uninit

end Decode

end MataDevice.SystemStatus
