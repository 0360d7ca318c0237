import MataDevice.SystemStatus.DebugNmea
import MataDevice.SystemStatus.NetworkInfo

/-!
# Reports of debug sentences

`setNmeaString` hands a debug sentence to the parser of its type and puts what the parser got into
the lists of reports, where it stays unless it is the same as the newest one. A sentence with too few
fields should not change the lists, and of every other one the lists should get what its fields say.

But `setNmeaString` does not know whether the parser got anything. The reports of a short sentence
are made of members that were not set, and so may be anything. Only the parser of the first type has
cleared them, and its reports are all zero.
-/

namespace MataDevice.SystemStatus

variable {ρ : Type} [Floats ρ]

/-! ## Reports -/

structure SystemStatusTimeAndClock where
  mGpsWeek : UInt16
  mGpsTowMs : UInt32
  mTimeValid : UInt8
  mTimeSource : UInt8
  mTimeUnc : Int32
  mClockFreqBias : Int32
  mClockFreqBiasUnc : Int32
  mLeapSeconds : Int32
  mLeapSecUnc : Int32
  mTimeUncNs : UInt64
  deriving DecidableEq, Repr

structure SystemStatusXoState where
  mXoState : UInt8
  deriving DecidableEq, Repr

structure SystemStatusRfAndParams (ρ : Type) where
  mPgaGain : Int32
  mGpsBpAmpI : UInt32
  mGpsBpAmpQ : UInt32
  mAdcI : UInt32
  mAdcQ : UInt32
  mJammerGps : UInt32
  mJammerGlo : UInt32
  mJammerBds : UInt32
  mJammerGal : UInt32
  mAgcGps : ρ
  mAgcGlo : ρ
  mAgcBds : ρ
  mAgcGal : ρ
  mGloBpAmpI : UInt32
  mGloBpAmpQ : UInt32
  mBdsBpAmpI : UInt32
  mBdsBpAmpQ : UInt32
  mGalBpAmpI : UInt32
  mGalBpAmpQ : UInt32

structure SystemStatusErrRecovery where
  mRecErrorRecovery : UInt32
  deriving DecidableEq, Repr

/-- The other reports have the members of the sentence. -/
structure SystemStatusBestPosition (ρ : Type) extends SystemStatusPQWP2 ρ where
  mValid : Bool

/-- What the lists do with a report -/
class DebugItem (α : Type) where
  equals : α → α → Bool
  ignore : α → Bool := fun _ ↦ false

open DebugItem (equals ignore)

instance : DebugItem SystemStatusTimeAndClock where equals s peer := s == peer

instance : DebugItem SystemStatusXoState where equals s peer := s == peer

instance : DebugItem (SystemStatusRfAndParams ρ) where
  equals s peer :=
    s.mPgaGain == peer.mPgaGain && s.mGpsBpAmpI == peer.mGpsBpAmpI &&
      s.mGpsBpAmpQ == peer.mGpsBpAmpQ && s.mAdcI == peer.mAdcI && s.mAdcQ == peer.mAdcQ &&
      s.mJammerGps == peer.mJammerGps && s.mJammerGlo == peer.mJammerGlo &&
      s.mJammerBds == peer.mJammerBds && s.mJammerGal == peer.mJammerGal &&
      s.mAgcGps == peer.mAgcGps && s.mAgcGlo == peer.mAgcGlo && s.mAgcBds == peer.mAgcBds &&
      s.mAgcGal == peer.mAgcGal && s.mGloBpAmpI == peer.mGloBpAmpI &&
      s.mGloBpAmpQ == peer.mGloBpAmpQ && s.mBdsBpAmpI == peer.mBdsBpAmpI &&
      s.mBdsBpAmpQ == peer.mBdsBpAmpQ && s.mGalBpAmpI == peer.mGalBpAmpI &&
      s.mGalBpAmpQ == peer.mGalBpAmpQ

instance : DebugItem SystemStatusErrRecovery where
  equals s peer := s == peer
  ignore s := s.mRecErrorRecovery == 0

instance : DebugItem (SystemStatusPQWP1 ρ) where
  equals s peer :=
    s.mEpiValidity == peer.mEpiValidity && s.mEpiLat == peer.mEpiLat &&
      s.mEpiLon == peer.mEpiLon && s.mEpiAlt == peer.mEpiAlt && s.mEpiHepe == peer.mEpiHepe &&
      s.mEpiAltUnc == peer.mEpiAltUnc && s.mEpiSrc == peer.mEpiSrc

instance : DebugItem (SystemStatusBestPosition ρ) where
  equals s peer :=
    s.mBestLat == peer.mBestLat && s.mBestLon == peer.mBestLon && s.mBestAlt == peer.mBestAlt &&
      s.mBestHepe == peer.mBestHepe && s.mBestAltUnc == peer.mBestAltUnc

instance : DebugItem SystemStatusPQWP3 where equals s peer := s == peer

instance : DebugItem SystemStatusPQWP4 where equals s peer := s == peer

/-- The masks of NavIC are not compared. -/
def SvMasks.equals (s peer : SvMasks) : Bool :=
  s.gps == peer.gps && s.glo == peer.glo && s.bds == peer.bds && s.gal == peer.gal &&
    s.qzss == peer.qzss

instance : DebugItem SystemStatusPQWP5 where
  equals s peer :=
    s.unknownMask.equals peer.unknownMask && s.goodMask.equals peer.goodMask &&
      s.badMask.equals peer.badMask

instance : DebugItem SystemStatusPQWP6 where equals s peer := s == peer

instance : DebugItem SystemStatusPQWP7 where equals s peer := s == peer

instance : DebugItem SystemStatusPQWS1 where equals s peer := s == peer

structure DebugReport (α : Type) where
  mUtcTime : ℕ
  mUtcReported : ℕ
  data : α

namespace DebugReport

variable {α : Type} [DebugItem α]

/-- A report at the end of the list, from the front of which one goes when there are too many -/
def push (report : List (DebugReport α)) (item : DebugReport α) : List (DebugReport α) :=
  if (report ++ [item]).length > maxItem then (report ++ [item]).tail else report ++ [item]

def setIteminReport (now : ℕ) (s : α) (report : List (DebugReport α)) : List (DebugReport α) :=
  if ignore s then report
  else
    match report.getLast? with
    | none => push report ⟨now, now, s⟩
    | some back =>
      if equals back.data s then report.dropLast ++ [{ back with mUtcReported := now }]
      else push report ⟨now, now, s⟩

end DebugReport

/-- The lists of `mCache` for debug sentences -/
structure DebugReports (ρ : Type) where
  mTimeAndClock : List (DebugReport SystemStatusTimeAndClock)
  mXoState : List (DebugReport SystemStatusXoState)
  mRfAndParams : List (DebugReport (SystemStatusRfAndParams ρ))
  mErrRecovery : List (DebugReport SystemStatusErrRecovery)
  mInjectedPosition : List (DebugReport (SystemStatusPQWP1 ρ))
  mBestPosition : List (DebugReport (SystemStatusBestPosition ρ))
  mXtra : List (DebugReport SystemStatusPQWP3)
  mEphemeris : List (DebugReport SystemStatusPQWP4)
  mSvHealth : List (DebugReport SystemStatusPQWP5)
  mPdr : List (DebugReport SystemStatusPQWP6)
  mNavData : List (DebugReport SystemStatusPQWP7)
  mPositionFailure : List (DebugReport SystemStatusPQWS1)

namespace SystemStatusPQWM1

variable (nmea : SystemStatusPQWM1 ρ)

def timeAndClock : SystemStatusTimeAndClock where
  mGpsWeek := nmea.mGpsWeek
  mGpsTowMs := nmea.mGpsTowMs
  mTimeValid := nmea.mTimeValid
  mTimeSource := nmea.mTimeSource
  mTimeUnc := nmea.mTimeUnc
  mClockFreqBias := nmea.mClockFreqBias
  mClockFreqBiasUnc := nmea.mClockFreqBiasUnc
  mLeapSeconds := nmea.mLeapSeconds
  mLeapSecUnc := nmea.mLeapSecUnc
  mTimeUncNs := nmea.mTimeUncNs

def xoState : SystemStatusXoState := ⟨nmea.mXoState⟩

def rfAndParams : SystemStatusRfAndParams ρ where
  mPgaGain := nmea.mPgaGain
  mGpsBpAmpI := nmea.mGpsBpAmpI
  mGpsBpAmpQ := nmea.mGpsBpAmpQ
  mAdcI := nmea.mAdcI
  mAdcQ := nmea.mAdcQ
  mJammerGps := nmea.mJammerGps
  mJammerGlo := nmea.mJammerGlo
  mJammerBds := nmea.mJammerBds
  mJammerGal := nmea.mJammerGal
  mAgcGps := nmea.mAgcGps
  mAgcGlo := nmea.mAgcGlo
  mAgcBds := nmea.mAgcBds
  mAgcGal := nmea.mAgcGal
  mGloBpAmpI := nmea.mGloBpAmpI
  mGloBpAmpQ := nmea.mGloBpAmpQ
  mBdsBpAmpI := nmea.mBdsBpAmpI
  mBdsBpAmpQ := nmea.mBdsBpAmpQ
  mGalBpAmpI := nmea.mGalBpAmpI
  mGalBpAmpQ := nmea.mGalBpAmpQ

def errRecovery : SystemStatusErrRecovery := ⟨nmea.mRecErrorRecovery⟩

end SystemStatusPQWM1

/-! ## Types of sentences -/

inductive DebugType
  | pqwm1
  | pqwp1
  | pqwp2
  | pqwp3
  | pqwp4
  | pqwp5
  | pqwp6
  | pqwp7
  | pqws1
  deriving DecidableEq, Repr

namespace DebugType

/-- `$PQWM1` and so on -/
def text : DebugType → List UInt8
  | pqwm1 => [36, 80, 81, 87, 77, 49]
  | pqwp1 => [36, 80, 81, 87, 80, 49]
  | pqwp2 => [36, 80, 81, 87, 80, 50]
  | pqwp3 => [36, 80, 81, 87, 80, 51]
  | pqwp4 => [36, 80, 81, 87, 80, 52]
  | pqwp5 => [36, 80, 81, 87, 80, 53]
  | pqwp6 => [36, 80, 81, 87, 80, 54]
  | pqwp7 => [36, 80, 81, 87, 80, 55]
  | pqws1 => [36, 80, 81, 87, 83, 49]

/-- The type of the sentence in `data`, in the order in which they are tried -/
def ofData (data : List UInt8) : Option DebugType :=
  ([pqwm1, pqwp1, pqwp2, pqwp3, pqwp4, pqwp5, pqwp6, pqwp7, pqws1] : List DebugType).find?
    fun type ↦ type.text.isPrefixOf (cString data)

/-- How many fields the parser needs -/
def eMax : DebugType → ℕ
  | pqwm1 => 23
  | pqwp1 => 9
  | pqwp2 => 7
  | pqwp3 => 13
  | pqwp4 => 7
  | pqwp5 => 17
  | pqwp6 => 3
  | pqwp7 => 2 + SV_ALL_NUM_MIN * 3
  | pqws1 => 4

/-- What the parser has in its members -/
abbrev Parsed (ρ : Type) : DebugType → Type
  | pqwm1 => SystemStatusPQWM1 ρ
  | pqwp1 => SystemStatusPQWP1 ρ
  | pqwp2 => SystemStatusPQWP2 ρ
  | pqwp3 => SystemStatusPQWP3
  | pqwp4 => SystemStatusPQWP4
  | pqwp5 => SystemStatusPQWP5
  | pqwp6 => SystemStatusPQWP6
  | pqwp7 => SystemStatusPQWP7
  | pqws1 => SystemStatusPQWS1

/-- The parser, with what its members are before they are set -/
def parse (mField : List (List UInt8)) : (type : DebugType) → type.Parsed ρ → type.Parsed ρ
  | pqwm1, _ => SystemStatusPQWM1parser mField
  | pqwp1, uninit => SystemStatusPQWP1parser mField uninit
  | pqwp2, uninit => SystemStatusPQWP2parser mField uninit
  | pqwp3, uninit => SystemStatusPQWP3parser mField uninit
  | pqwp4, uninit => SystemStatusPQWP4parser mField uninit
  | pqwp5, uninit => SystemStatusPQWP5parser mField uninit
  | pqwp6, uninit => SystemStatusPQWP6parser mField uninit
  | pqwp7, uninit => SystemStatusPQWP7parser mField uninit
  | pqws1, uninit => SystemStatusPQWS1parser mField uninit

/-- What the fields say -/
def decode (mField : List (List UInt8)) : (type : DebugType) → type.Parsed ρ
  | pqwm1 => decodePQWM1 mField
  | pqwp1 => decodePQWP1 mField
  | pqwp2 => decodePQWP2 mField
  | pqwp3 => decodePQWP3 mField
  | pqwp4 => decodePQWP4 mField
  | pqwp5 => decodePQWP5 mField
  | pqwp6 => decodePQWP6 mField
  | pqwp7 => decodePQWP7 mField
  | pqws1 => decodePQWS1 mField

/-- Put what was parsed into the lists -/
def store (now : ℕ) (mCache : DebugReports ρ) :
    (type : DebugType) → type.Parsed ρ → DebugReports ρ
  | pqwm1, s => { mCache with
      mTimeAndClock := DebugReport.setIteminReport now s.timeAndClock mCache.mTimeAndClock
      mXoState := DebugReport.setIteminReport now s.xoState mCache.mXoState
      mRfAndParams := DebugReport.setIteminReport now s.rfAndParams mCache.mRfAndParams
      mErrRecovery := DebugReport.setIteminReport now s.errRecovery mCache.mErrRecovery }
  | pqwp1, s => { mCache with
      mInjectedPosition := DebugReport.setIteminReport now s mCache.mInjectedPosition }
  | pqwp2, s => { mCache with
      mBestPosition := DebugReport.setIteminReport now ⟨s, true⟩ mCache.mBestPosition }
  | pqwp3, s => { mCache with mXtra := DebugReport.setIteminReport now s mCache.mXtra }
  | pqwp4, s => { mCache with mEphemeris := DebugReport.setIteminReport now s mCache.mEphemeris }
  | pqwp5, s => { mCache with mSvHealth := DebugReport.setIteminReport now s mCache.mSvHealth }
  | pqwp6, s => { mCache with mPdr := DebugReport.setIteminReport now s mCache.mPdr }
  | pqwp7, s => { mCache with mNavData := DebugReport.setIteminReport now s mCache.mNavData }
  | pqws1, s => { mCache with
      mPositionFailure := DebugReport.setIteminReport now s mCache.mPositionFailure }

end DebugType

/-- The fields of the copy of a sentence -/
def fieldsOfData (data : List UInt8) (len : UInt32) : List (List UInt8) :=
  fields ((cString data).take DEBUG_NMEA_MAXSIZE.toNat) len

/-- `uninit` is what the members of a parser are before they are set. -/
def setNmeaString (uninit : (type : DebugType) → type.Parsed ρ) (now : ℕ) (data : List UInt8)
    (len : UInt32) (mCache : DebugReports ρ) : DebugReports ρ × Bool :=
  if !loc_nmea_is_debug data len then (mCache, false)
  else
    match DebugType.ofData data with
    | none => (mCache, true)
    | some type =>
      (type.store now mCache (type.parse (fieldsOfData data len) (uninit type)), true)

/-! ## What a sentence should do -/

/-- The lists after a sentence: the same if it is too short, and with what its fields say if not -/
def afterSentence (now : ℕ) (data : List UInt8) (len : UInt32) (mCache : DebugReports ρ) :
    DebugReports ρ :=
  if !loc_nmea_is_debug data len then mCache
  else
    match DebugType.ofData data with
    | none => mCache
    | some type =>
      if (fieldsOfData data len).length < type.eMax then mCache
      else type.store now mCache (type.decode (fieldsOfData data len))

namespace DebugReport

variable {α : Type} [DebugItem α]

/-- The newest report is that of `s`, and was reported at the time. -/
def Newest (now : ℕ) (s : α) (report : List (DebugReport α)) : Prop :=
  ∃ back, report.getLast? = some back ∧ equals back.data s = true ∧ back.mUtcReported = now

variable {now : ℕ} {s : α} {report : List (DebugReport α)}

omit [DebugItem α] in
theorem getLast?_push (report : List (DebugReport α)) (item : DebugReport α) :
    (push report item).getLast? = some item := by
  rw [push]
  split
  · next hlong =>
    cases report with
    | nil => exact absurd hlong (Nat.not_lt.mpr (by decide : 1 ≤ maxItem))
    | cons first report => simp
  · exact List.getLast?_concat

/-- What `equals` tells from the newest report comes after it. -/
theorem getLast?_setIteminReport (now : ℕ) (report : List (DebugReport α))
    (hignore : ignore s = false)
    (h : ∀ back, report.getLast? = some back → equals back.data s = false) :
    (setIteminReport now s report).getLast? = some ⟨now, now, s⟩ := by
  rw [setIteminReport, hignore, if_neg Bool.false_ne_true]
  cases hlast : report.getLast? with
  | none => exact getLast?_push report _
  | some back =>
    dsimp only
    rw [h back hlast, if_neg Bool.false_ne_true]
    exact getLast?_push report _

/-- A report that is like itself leaves the list alone if it is the newest one already. -/
theorem setIteminReport_eq_self_iff (hignore : ignore s = false) (hself : equals s s = true) :
    setIteminReport now s report = report ↔ Newest now s report := by
  constructor
  · intro heq
    by_cases h : ∀ back, report.getLast? = some back → equals back.data s = false
    · have hlast := getLast?_setIteminReport now report hignore h
      rw [heq] at hlast
      have hself' := h _ hlast
      rw [hself] at hself'
      cases hself'
    · rw [not_forall] at h
      obtain ⟨back, h⟩ := h
      rw [Classical.not_imp, Bool.not_eq_false] at h
      obtain ⟨hlast, hequals⟩ := h
      refine ⟨back, hlast, hequals, ?_⟩
      rw [setIteminReport, hignore, if_neg Bool.false_ne_true, hlast] at heq
      dsimp only at heq
      rw [if_pos hequals] at heq
      have hlast' := congrArg List.getLast? heq
      rw [List.getLast?_concat, hlast, Option.some_inj] at hlast'
      exact (congrArg mUtcReported hlast').symm
  · rintro ⟨back, hlast, hequals, hreported⟩
    have hback : { back with mUtcReported := now } = back := by rw [← hreported]
    rw [setIteminReport, hignore, if_neg Bool.false_ne_true, hlast]
    dsimp only
    rw [if_pos hequals, hback]
    exact List.dropLast_append_getLast? _ hlast

/-- If there is always another report, there is one that changes the list. -/
theorem exists_setIteminReport_ne {β : Type} [Nonempty β] (f : β → α)
    (hignore : ∀ b, ignore (f b) = false)
    (h : ∀ back : α, ∃ b, equals back (f b) = false ∧ back ≠ f b) (now : ℕ)
    (report : List (DebugReport α)) : ∃ b, setIteminReport now (f b) report ≠ report := by
  cases hlast : report.getLast? with
  | none =>
    obtain ⟨b⟩ := ‹Nonempty β›
    refine ⟨b, fun heq ↦ ?_⟩
    have hlast' := getLast?_setIteminReport now report (hignore b)
      fun back hback ↦ by rw [hlast] at hback; cases hback
    rw [heq, hlast] at hlast'
    cases hlast'
  | some back =>
    obtain ⟨b, hequals, hne⟩ := h back.data
    refine ⟨b, fun heq ↦ hne ?_⟩
    have hlast' := getLast?_setIteminReport now report (hignore b)
      fun back' hback ↦ by
        rw [hlast] at hback
        obtain rfl := Option.some_inj.mp hback
        exact hequals
    rw [heq, hlast, Option.some_inj] at hlast'
    rw [hlast']

theorem exists_not_equals (hequals : ∀ s peer : α, equals s peer = true → s = peer) {s s' : α}
    (hne : s ≠ s') (back : α) : ∃ s'', equals back s'' = false ∧ back ≠ s'' := by
  have hfalse : ∀ peer, back ≠ peer → equals back peer = false := fun peer hback ↦
    Bool.eq_false_iff.mpr fun htrue ↦ hback (hequals back peer htrue)
  by_cases hback : back = s
  · exact ⟨s', hfalse s' (hback ▸ hne), hback ▸ hne⟩
  · exact ⟨s, hfalse s hback, hback⟩

end DebugReport

namespace DebugType

variable {type : DebugType} {mField : List (List UInt8)} {now : ℕ} {mCache : DebugReports ρ}

theorem parse_of_le (h : type.eMax ≤ mField.length) (uninit : type.Parsed ρ) :
    type.parse mField uninit = type.decode mField := by
  cases type <;> exact if_neg (Nat.not_lt.mpr h)

theorem parse_of_lt (h : mField.length < type.eMax) (hne : type ≠ pqwm1)
    (uninit : type.Parsed ρ) : type.parse mField uninit = uninit := by
  cases type
  case pqwm1 => exact absurd rfl hne
  all_goals exact if_pos h

theorem parse_pqwm1_of_lt (h : mField.length < pqwm1.eMax) (uninit : pqwm1.Parsed ρ) :
    pqwm1.parse mField uninit = SystemStatusPQWM1.cleared := if_pos h

theorem uint_ne_add_one (x : UInt32) : x ≠ x + 1 := by
  intro heq
  have hnat := congrArg UInt32.toNat heq
  rw [UInt32.toNat_add, UInt32.toNat_one] at hnat
  have hlt := x.toNat_lt
  omega

/-- There are members with which the lists change. -/
theorem exists_store_ne (hne : type ≠ pqwm1) (now : ℕ) (mCache : DebugReports ρ) :
    ∃ uninit : type.Parsed ρ, type.store now mCache uninit ≠ mCache := by
  cases type with
  | pqwm1 => exact absurd rfl hne
  | pqwp1 =>
    have hother : ∀ back : SystemStatusPQWP1 ρ, ∃ s, equals back s = false ∧ back ≠ s := by
      intro back
      obtain ⟨y, hbeq, hne⟩ := Floats.exists_ne back.mEpiLat
      refine ⟨{ back with mEpiLat := y }, ?_, fun heq ↦ hne ?_⟩
      · simp [equals, hbeq]
      · exact congrArg SystemStatusPQWP1.mEpiLat heq
    have : Nonempty (SystemStatusPQWP1 ρ) := ⟨decodePQWP1 []⟩
    obtain ⟨uninit, h⟩ := DebugReport.exists_setIteminReport_ne id (fun _ ↦ rfl) hother now
      mCache.mInjectedPosition
    exact ⟨uninit, fun heq ↦ h (congrArg DebugReports.mInjectedPosition heq)⟩
  | pqwp2 =>
    have hother : ∀ back : SystemStatusBestPosition ρ, ∃ s : SystemStatusPQWP2 ρ,
        equals back ⟨s, true⟩ = false ∧ back ≠ ⟨s, true⟩ := by
      intro back
      obtain ⟨y, hbeq, hne⟩ := Floats.exists_ne back.mBestLat
      refine ⟨{ back.toSystemStatusPQWP2 with mBestLat := y }, ?_, fun heq ↦ hne ?_⟩
      · simp [equals, hbeq]
      · exact congrArg (fun s ↦ s.toSystemStatusPQWP2.mBestLat) heq
    have : Nonempty (SystemStatusPQWP2 ρ) := ⟨decodePQWP2 []⟩
    obtain ⟨uninit, h⟩ := DebugReport.exists_setIteminReport_ne
      (fun s : SystemStatusPQWP2 ρ ↦ (⟨s, true⟩ : SystemStatusBestPosition ρ)) (fun _ ↦ rfl) hother
      now mCache.mBestPosition
    exact ⟨uninit, fun heq ↦ h (congrArg DebugReports.mBestPosition heq)⟩
  | pqwp3 =>
    have : Nonempty SystemStatusPQWP3 := ⟨decodePQWP3 []⟩
    have hne' : decodePQWP3 [] ≠ { decodePQWP3 [] with mGpsXtraAge := 1 } := by decide
    obtain ⟨uninit, h⟩ := DebugReport.exists_setIteminReport_ne id (fun _ ↦ rfl)
      (DebugReport.exists_not_equals (fun _ _ ↦ eq_of_beq) hne') now mCache.mXtra
    exact ⟨uninit, fun heq ↦ h (congrArg DebugReports.mXtra heq)⟩
  | pqwp4 =>
    have : Nonempty SystemStatusPQWP4 := ⟨decodePQWP4 []⟩
    have hne' : decodePQWP4 [] ≠ { decodePQWP4 [] with mGpsEpheValid := 1 } := by decide
    obtain ⟨uninit, h⟩ := DebugReport.exists_setIteminReport_ne id (fun _ ↦ rfl)
      (DebugReport.exists_not_equals (fun _ _ ↦ eq_of_beq) hne') now mCache.mEphemeris
    exact ⟨uninit, fun heq ↦ h (congrArg DebugReports.mEphemeris heq)⟩
  | pqwp5 =>
    have hother : ∀ back : SystemStatusPQWP5, ∃ s, equals back s = false ∧ back ≠ s := by
      intro back
      have hgps := uint_ne_add_one back.unknownMask.gps
      refine ⟨{ back with unknownMask.gps := back.unknownMask.gps + 1 }, ?_, fun heq ↦ hgps ?_⟩
      · simp [equals, SvMasks.equals, hgps]
      · exact congrArg (fun s ↦ s.unknownMask.gps) heq
    have : Nonempty SystemStatusPQWP5 := ⟨decodePQWP5 []⟩
    obtain ⟨uninit, h⟩ := DebugReport.exists_setIteminReport_ne id (fun _ ↦ rfl) hother now
      mCache.mSvHealth
    exact ⟨uninit, fun heq ↦ h (congrArg DebugReports.mSvHealth heq)⟩
  | pqwp6 =>
    have : Nonempty SystemStatusPQWP6 := ⟨decodePQWP6 []⟩
    have hne' : decodePQWP6 [] ≠ { decodePQWP6 [] with mFixInfoMask := 1 } := by decide
    obtain ⟨uninit, h⟩ := DebugReport.exists_setIteminReport_ne id (fun _ ↦ rfl)
      (DebugReport.exists_not_equals (fun _ _ ↦ eq_of_beq) hne') now mCache.mPdr
    exact ⟨uninit, fun heq ↦ h (congrArg DebugReports.mPdr heq)⟩
  | pqwp7 =>
    have hne' : (⟨Vector.replicate _ ⟨0, 0, 0⟩⟩ : SystemStatusPQWP7) ≠
        ⟨Vector.replicate _ ⟨1, 0, 0⟩⟩ := by
      intro heq
      have hfirst := congrArg (fun s : SystemStatusPQWP7 ↦ s.mNav[0]) heq
      simp at hfirst
    have : Nonempty SystemStatusPQWP7 := ⟨decodePQWP7 []⟩
    obtain ⟨uninit, h⟩ := DebugReport.exists_setIteminReport_ne id (fun _ ↦ rfl)
      (DebugReport.exists_not_equals (fun _ _ ↦ eq_of_beq) hne') now mCache.mNavData
    exact ⟨uninit, fun heq ↦ h (congrArg DebugReports.mNavData heq)⟩
  | pqws1 =>
    have : Nonempty SystemStatusPQWS1 := ⟨decodePQWS1 []⟩
    have hne' : decodePQWS1 [] ≠ { decodePQWS1 [] with mHepeLimit := 1 } := by decide
    obtain ⟨uninit, h⟩ := DebugReport.exists_setIteminReport_ne id (fun _ ↦ rfl)
      (DebugReport.exists_not_equals (fun _ _ ↦ eq_of_beq) hne') now mCache.mPositionFailure
    exact ⟨uninit, fun heq ↦ h (congrArg DebugReports.mPositionFailure heq)⟩

/-- The newest reports of the first type are those of cleared members already. Those of the recovery
from errors do not matter: a zero one is ignored. -/
def Cleared (now : ℕ) (mCache : DebugReports ρ) : Prop :=
  DebugReport.Newest now (SystemStatusPQWM1.cleared : SystemStatusPQWM1 ρ).timeAndClock
      mCache.mTimeAndClock ∧
    DebugReport.Newest now (SystemStatusPQWM1.cleared : SystemStatusPQWM1 ρ).xoState
      mCache.mXoState ∧
    DebugReport.Newest now (SystemStatusPQWM1.cleared : SystemStatusPQWM1 ρ).rfAndParams
      mCache.mRfAndParams

theorem store_cleared_eq_self_iff :
    pqwm1.store now mCache SystemStatusPQWM1.cleared = mCache ↔ Cleared now mCache := by
  have hrf : equals (SystemStatusPQWM1.cleared : SystemStatusPQWM1 ρ).rfAndParams
      (SystemStatusPQWM1.cleared : SystemStatusPQWM1 ρ).rfAndParams = true := by
    simp [equals, SystemStatusPQWM1.rfAndParams, SystemStatusPQWM1.cleared, Floats.zero_beq_zero]
  have herr : DebugReport.setIteminReport now
      (SystemStatusPQWM1.cleared : SystemStatusPQWM1 ρ).errRecovery mCache.mErrRecovery =
        mCache.mErrRecovery := if_pos rfl
  obtain ⟨timeAndClock, xoState, rfAndParams, errRecovery, _⟩ := mCache
  rw [Cleared, ← DebugReport.setIteminReport_eq_self_iff (by rfl) (by rfl),
    ← DebugReport.setIteminReport_eq_self_iff (by rfl) (by rfl),
    ← DebugReport.setIteminReport_eq_self_iff (by rfl) hrf]
  simp only [store, DebugReports.mk.injEq, and_true]
  exact and_congr_right fun _ ↦ and_congr_right fun _ ↦ and_iff_left herr

end DebugType

/-- A debug sentence does what it should, whatever the members of the parser were, if and only if it
is of no type that is parsed, or has enough fields, or there is nothing to change: one of the first
type when the newest reports are cleared already. -/
theorem setNmeaString_iff (now : ℕ) (data : List UInt8) (len : UInt32) (mCache : DebugReports ρ) :
    (∀ uninit, (setNmeaString uninit now data len mCache).1 = afterSentence now data len mCache) ↔
      (loc_nmea_is_debug data len = true → ∀ type, DebugType.ofData data = some type →
        type.eMax ≤ (fieldsOfData data len).length ∨
          type = .pqwm1 ∧ DebugType.Cleared now mCache) := by
  cases hdebug : loc_nmea_is_debug data len with
  | false => simp [setNmeaString, afterSentence, hdebug]
  | true =>
    cases htype : DebugType.ofData data with
    | none => simp [setNmeaString, afterSentence, hdebug, htype]
    | some type =>
      have hset : ∀ uninit, (setNmeaString uninit now data len mCache).1 =
          type.store now mCache (type.parse (fieldsOfData data len) (uninit type)) := fun uninit ↦ by
        rw [setNmeaString, hdebug, htype]
        rfl
      have hafter : afterSentence now data len mCache =
          if (fieldsOfData data len).length < type.eMax then mCache
          else type.store now mCache (type.decode (fieldsOfData data len)) := by
        rw [afterSentence, hdebug, htype]
        rfl
      simp only [hset, hafter, Option.some_inj, forall_const]
      rw [forall_eq']
      by_cases hlen : type.eMax ≤ (fieldsOfData data len).length
      · refine iff_of_true (fun uninit ↦ ?_) (Or.inl hlen)
        rw [DebugType.parse_of_le hlen, if_neg (Nat.not_lt.mpr hlen)]
      · have hlt := Nat.lt_of_not_le hlen
        simp only [if_pos hlt, or_iff_right hlen]
        by_cases hfirst : type = .pqwm1
        · subst hfirst
          rw [← DebugType.store_cleared_eq_self_iff, and_iff_right rfl]
          constructor
          · intro h
            have hcleared := h fun type ↦ type.decode []
            rwa [DebugType.parse_pqwm1_of_lt hlt] at hcleared
          · intro h uninit
            rwa [DebugType.parse_pqwm1_of_lt hlt]
        · refine iff_of_false (fun h ↦ ?_) (fun h ↦ hfirst h.1)
          obtain ⟨uninit, hne⟩ := DebugType.exists_store_ne hfirst now mCache
          refine hne ?_
          have hsame := h (Function.update (fun type ↦ type.decode []) type uninit)
          rwa [Function.update_self, DebugType.parse_of_lt hlt hfirst] at hsame

/-- Numbers without a fraction, and one that is not a number -/
instance : Floats (Option ℤ) where
  beq x y := match x, y with
    | some x, some y => x == y
    | _, _ => false
  zero := some 0
  atof text := some (Numerals.strtol 10 text)
  toFloat x := x
  ofInt n := some n.toInt
  zero_beq_zero := rfl
  exists_ne x := match x with
    | none => ⟨some 0, rfl, nofun⟩
    | some x => ⟨some (x + 1), beq_eq_false_iff_ne.mpr (by omega), by simp⟩

/-- `$PQWP6*` -/
def shortSentence : List UInt8 := [36, 80, 81, 87, 80, 54, 42]

theorem not_setNmeaString :
    ¬∀ (uninit : (type : DebugType) → type.Parsed (Option ℤ)) (now : ℕ) (data : List UInt8)
      (len : UInt32) (mCache : DebugReports (Option ℤ)),
      (setNmeaString uninit now data len mCache).1 = afterSentence now data len mCache := by
  intro h
  have hpdr := congrArg (fun mCache ↦ mCache.mPdr.length)
    (h (fun type ↦ type.decode []) 0 shortSentence 7 ⟨[], [], [], [], [], [], [], [], [], [], [], []⟩)
  revert hpdr
  decide +kernel

end MataDevice.SystemStatus
