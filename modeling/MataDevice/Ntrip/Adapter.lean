import MataDevice.Tracking.System

/-!
# The NTRIP correction stream

The NTRIP client of the device gets corrections from a server with the credentials of the user. It
is told to start and stop by `XtraSystemStatusObserver`, on calls that `GnssAdapter` makes: it is to
run while NTRIP is enabled and there is a time based session, and if the server wants to know where
the device is, it waits for a first position.

The adapter keeps this in three bits. They change when NTRIP is enabled and disabled, when the engine
is stopped, suspended and restarted, when it has answered the start of a session, and when a GGA
sentence is reported. The sessions are those of the tracking system, with all of its messages and
requests; here it is looked at for what its functions do with the bits besides.
-/

namespace MataDevice.Ntrip

open MataDevice.Tracking (TrackingSystem LocMsg Owned)

/-! ## The bits and what they are changed by -/

structure GnssNtripConnectionParams where
  requiresNmeaLocation : Bool
  hostNameOrIp : List Char
  mountPoint : List Char
  username : List Char
  password : List Char
  port : UInt32
  useSSL : Bool
  deriving DecidableEq, Repr

structure StartDgnssNtripParams where
  ntripParams : GnssNtripConnectionParams
  nmea : List Char
  deriving DecidableEq, Repr

/-- The bits of `mDgnssState`. -/
structure DgnssState where
  /-- `DGNSS_STATE_ENABLE_NTRIP_COMMAND` -/
  enableNtripCommand : Bool
  /-- `DGNSS_STATE_NO_NMEA_PENDING` -/
  noNmeaPending : Bool
  /-- `DGNSS_STATE_NTRIP_SESSION_STARTED` -/
  ntripSessionStarted : Bool
  deriving DecidableEq, Repr

/-- The calls of `XtraSystemStatusObserver`. -/
inductive Call
  | startDgnssSource (params : StartDgnssNtripParams)
  | stopDgnssSource
  | updateNmeaToDgnssServer (nmea : List Char)
  deriving DecidableEq, Repr

/-- The members of `GnssAdapter` that belong to NTRIP. -/
structure Dgnss where
  mStartDgnssNtripParams : StartDgnssNtripParams
  mSendNmeaConsent : Bool
  mDgnssState : DgnssState
  mDgnssLastNmeaBootTimeMilli : UInt64
  deriving DecidableEq, Repr

/-- `DGNSS_RANGE_UPDATE_TIME_10MIN_IN_MILLI` -/
def dgnssRangeUpdateTime10MinInMilli : UInt64 := 600000

namespace Dgnss

variable (d : Dgnss)

def isDgnssNmeaRequired : Bool :=
  d.mSendNmeaConsent && d.mStartDgnssNtripParams.ntripParams.requiresNmeaLocation

def checkUpdateDgnssNtrip (isInSession : Bool) (curBootTime : UInt64) (isLocationValid : Bool) :
    Dgnss × List Call :=
  if isInSession then
    if d.mDgnssState = ⟨true, true, false⟩ then
      ({ d with
          mDgnssState := { d.mDgnssState with ntripSessionStarted := true }
          mDgnssLastNmeaBootTimeMilli :=
            if d.isDgnssNmeaRequired then curBootTime else d.mDgnssLastNmeaBootTimeMilli },
        [.startDgnssSource d.mStartDgnssNtripParams])
    else if d.mDgnssState.ntripSessionStarted && isLocationValid && d.isDgnssNmeaRequired &&
        decide (curBootTime - d.mDgnssLastNmeaBootTimeMilli > dgnssRangeUpdateTime10MinInMilli) then
      ({ d with mDgnssLastNmeaBootTimeMilli := curBootTime },
        [.updateNmeaToDgnssServer d.mStartDgnssNtripParams.nmea])
    else (d, [])
  else (d, [])

def stopDgnssNtrip : Dgnss × List Call :=
  let d := { d with mStartDgnssNtripParams := { d.mStartDgnssNtripParams with nmea := [] } }
  if d.mDgnssState.ntripSessionStarted then
    ({ d with mDgnssState := { d.mDgnssState with ntripSessionStarted := false } },
      [.stopDgnssSource])
  else (d, [])

/-- What `stopTracking` and `suspendSessions` do with the bits. -/
def stopWithEngine : Dgnss × List Call :=
  if d.isDgnssNmeaRequired then
    { d with mDgnssState := { d.mDgnssState with noNmeaPending := false } }.stopDgnssNtrip
  else d.stopDgnssNtrip

/-- NTRIP is enabled with these parameters already. -/
def receivedSame (params : GnssNtripConnectionParams) : Bool :=
  decide (d.mStartDgnssNtripParams.ntripParams = params) && d.mDgnssState.enableNtripCommand

def handleEnablePPENtrip (isInSession : Bool) (curBootTime : UInt64)
    (params : GnssNtripConnectionParams) : Dgnss × List Call :=
  if d.receivedSame params then (d, [])
  else
    let d := { d with
      mDgnssState := ⟨true, true, false⟩
      mStartDgnssNtripParams := ⟨params, []⟩ }
    if d.mSendNmeaConsent && params.requiresNmeaLocation then
      ({ d with
        mDgnssState := { d.mDgnssState with noNmeaPending := false }
        mDgnssLastNmeaBootTimeMilli := 0 }, [])
    else d.checkUpdateDgnssNtrip isInSession curBootTime false

def handleDisablePPENtrip : Dgnss × List Call :=
  { d with
    mDgnssState :=
      { d.mDgnssState with enableNtripCommand := false, noNmeaPending := true } }.stopDgnssNtrip

/-- A GGA sentence is there, which ends the waiting for one. -/
def takeGGA (isInSession : Bool) (curBootTime : UInt64) (nmea : List Char)
    (isLocationValid : Bool) : Dgnss × List Call :=
  { d with
    mDgnssState := { d.mDgnssState with noNmeaPending := true }
    mStartDgnssNtripParams := { d.mStartDgnssNtripParams with nmea := nmea } }.checkUpdateDgnssNtrip
      isInSession curBootTime isLocationValid

/-- `reportPosition`, which makes its NMEA sentences itself. -/
def reportPosition (isInSession : Bool) (curBootTime : UInt64) (gga : Option (List Char))
    (isLocationValid : Bool) : Dgnss × List Call :=
  match gga with
  | some nmea =>
    if d.isDgnssNmeaRequired then d.takeGGA isInSession curBootTime nmea isLocationValid else (d, [])
  | none => (d, [])

end Dgnss

/-! ## Finding the GGA sentence -/

/-- `std::string::find` from a position on. -/
def find (s pattern : List Char) (pos : ℕ) : Option ℕ :=
  (List.range s.length).find? fun i ↦ pos ≤ i && pattern.isPrefixOf (s.drop i)

/-- The sentence that `GGA` is found in, and what comes after it if there is no `$`. -/
def ggaString (nmeaString : List Char) : Option (List Char) :=
  match find nmeaString ['G', 'G', 'A'] 0 with
  | none => none
  | some foundPos =>
    if foundPos ≥ 3 then
      match find nmeaString ['$'] foundPos with
      | some foundNextSentence =>
        -- the length is the position of the next sentence
        some ((nmeaString.drop (foundPos - 3)).take foundNextSentence)
      | none => some (nmeaString.drop (foundPos - 3))
    else none

/-- The loop over the commas, where `n` more are to be found: the position after it, if all of them
were found. -/
def skipCommas (s : List Char) : (n : ℕ) → (foundPos : Option ℕ) → Option (Option ℕ)
  | 0, foundPos => some foundPos
  | _ + 1, none => none
  | n + 1, some foundPos => skipCommas s n (find s [','] (foundPos + 1))

/-- Nothing comes back where `at` is out of range. -/
def Dgnss.reportGGAToNtrip (d : Dgnss) (isInSession : Bool) (curBootTime : UInt64)
    (nmea : List Char) : Option (Dgnss × List Call) :=
  if !d.isDgnssNmeaRequired then some (d, [])
  else
    match ggaString nmea with
    | none => some (d, [])
    | some gga =>
      match skipCommas gga 6 (find gga [','] 0) with
      | none => some (d, [])
      -- `foundPos` is `npos`
      | some none => none
      | some (some foundPos) =>
        match gga[foundPos - 1]? with
        | none => none
        | some c =>
          some (if c ≠ '0' then d.takeGGA isInSession curBootTime gga true else (d, []))

/-! ## Together with the sessions -/

structure NtripSystem where
  tracking : TrackingSystem
  dgnss : Dgnss
  /-- `getBootTimeMilliSec()` -/
  bootTime : UInt64

inductive Event
  | tracking (e : Tracking.Event)
  | suspendSessions
  | handleEnablePPENtrip (params : GnssNtripConnectionParams)
  | handleDisablePPENtrip
  | updateNTRIPGGAConsentCommand (consentAccepted : Bool)
  /-- The NMEA sentences of the engine. -/
  | reportNmea (nmea : List Char)
  | reportPosition (gga : Option (List Char)) (isLocationValid : Bool)
  | setBootTime (bootTime : UInt64)
  deriving DecidableEq, Repr

/-- `stopTracking` is the one that waits for the answer of the engine to a stop. -/
def stopsTracking : Tracking.Call → Bool
  | .stopFix (some _) => true
  | _ => false

namespace NtripSystem

variable (s : NtripSystem)

def isInSession : Bool := !s.tracking.adapter.mTimeBasedTrackingSessions.isEmpty

/-- What becomes of the bits when a message of the tracking system has made these calls. -/
def dgnssProc (msg : LocMsg) (calls : List (Owned Tracking.Call)) : Dgnss × List Call :=
  match msg with
  | .locApiResponse (.startedTime _) err =>
    if s.tracking.adapter.mEngineLockState = .enabled ∧ err ≠ .success then (s.dgnss, [])
    else s.dgnss.checkUpdateDgnssNtrip s.isInSession s.bootTime false
  | _ => if calls.any (stopsTracking ·.2) then s.dgnss.stopWithEngine else (s.dgnss, [])

/-- What becomes of the bits in a step of the tracking system. -/
def dgnssTracking (e : Tracking.Event) (calls : List (Owned Tracking.Call)) :
    Dgnss × List Call :=
  match e with
  | .proc =>
    match s.tracking.queue with
    | [] => (s.dgnss, [])
    | (_, msg) :: _ => s.dgnssProc msg calls
  | .restartSessions =>
    if s.isInSession then s.dgnss.checkUpdateDgnssNtrip s.isInSession s.bootTime false
    else (s.dgnss, [])
  | _ => (s.dgnss, [])

def setDgnss (r : Dgnss × List Call) : NtripSystem × List Call := ({ s with dgnss := r.1 }, r.2)

def step : Event → Option (NtripSystem × List Call)
  | .tracking e =>
    match s.tracking.step e with
    | none => none
    | some (tracking, calls) =>
      some ({ s with tracking := tracking }.setDgnss (s.dgnssTracking e calls))
  | .suspendSessions =>
    if s.isInSession then
      let adapter := { s.tracking.adapter with mSPEAlreadyRunningAtHighestInterval := false }
      some ({ s with tracking := { s.tracking with adapter := adapter } }.setDgnss
        s.dgnss.stopWithEngine)
    else some (s, [])
  | .handleEnablePPENtrip params =>
    some (s.setDgnss (s.dgnss.handleEnablePPENtrip s.isInSession s.bootTime params))
  | .handleDisablePPENtrip => some (s.setDgnss s.dgnss.handleDisablePPENtrip)
  | .updateNTRIPGGAConsentCommand consentAccepted =>
    some ({ s with dgnss := { s.dgnss with mSendNmeaConsent := consentAccepted } }, [])
  | .reportNmea nmea =>
    (s.dgnss.reportGGAToNtrip s.isInSession s.bootTime nmea).map s.setDgnss
  | .reportPosition gga isLocationValid =>
    some (s.setDgnss (s.dgnss.reportPosition s.isInSession s.bootTime gga isLocationValid))
  | .setBootTime bootTime => some ({ s with bootTime := bootTime }, [])

/-- NTRIP has not been enabled yet, and there is no session. -/
def init (adapter : Tracking.GnssAdapter) (params : GnssNtripConnectionParams) : NtripSystem where
  tracking := .initial adapter
  dgnss := ⟨⟨params, []⟩, false, ⟨false, false, false⟩, 0⟩
  bootTime := 0

end NtripSystem

end MataDevice.Ntrip
