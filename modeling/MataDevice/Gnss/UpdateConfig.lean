import MataDevice.Gnss.ConfigFlags
import MataDevice.Lib.Decimal

/-!
# The errors of a configuration update

`gnssUpdateConfigCommand` answers with one error for each flag of the configuration, in the order of
the bits. The errors are made by `gnssUpdateConfig`, which walks the flags with a running index of
its own: it takes the assistance server before the SUPL version, it does not walk the flags for
which nothing is sent to the modem at all, and without `AGPS_CONFIG_INJECT` it does not walk the
flags that it then must not send either. The error for a wrong type of assistance server is written
into another list, which is dropped.

So an error stands at its place if no flag below it is left out of the walk, the SUPL version and
the assistance server do not change places, and the type of the assistance server is right.
-/

namespace MataDevice.Gnss

open List
open MataDevice.Tracking (LocationError)

namespace UpdateConfig

inductive GnssAssistanceType
  | supl
  | c2k
  | suplEims
  | suplIms
  deriving DecidableEq, Repr

inductive LocServerType
  | agpsSupl
  | agpsMoSupl
  | agpsCdmaPde
  deriving DecidableEq, Repr

/-- `GnssConfigSetAssistanceServer`; no host name stands for `nullptr`. -/
structure AssistanceServer where
  type : GnssAssistanceType
  hostName : Option (List UInt8)
  port : UInt32
  deriving DecidableEq, Repr

structure GnssSvIdSource where
  constellation : GnssSvType
  svId : UInt16
  deriving DecidableEq, Repr

/-- `GnssConfig`, as far as it is sent to the modem here. -/
structure GnssConfig where
  flags : GnssConfigFlagsMask
  gpsLock : BitVec 32
  suplVersion : UInt32
  assistanceServer : AssistanceServer
  lppProfileMask : UInt32
  lppeControlPlaneMask : UInt32
  lppeUserPlaneMask : UInt32
  aGlonassPositionProtocolMask : UInt32
  blacklistedSvIds : List GnssSvIdSource
  emergencyExtensionSeconds : UInt32
  minSvElevation : UInt8
  deriving DecidableEq, Repr

/-- `GnssConfig gnssConfig = {}` -/
def GnssConfig.empty : GnssConfig where
  flags := 0
  gpsLock := 0
  suplVersion := 0
  assistanceServer := ⟨.supl, none, 0⟩
  lppProfileMask := 0
  lppeControlPlaneMask := 0
  lppeUserPlaneMask := 0
  aGlonassPositionProtocolMask := 0
  blacklistedSvIds := []
  emergencyExtensionSeconds := 0
  minSvElevation := 0

/-- The setters of `LocApiBase`, by their results. The blacklist is converted to masks before it is
sent, whatever that conversion finds wrong with it. -/
structure LocApi where
  setGpsLockSync : BitVec 32 → LocationError
  setServerSync : List UInt8 → ℕ → LocServerType → LocationError
  /-- `setServerSync(unsigned int, int, LocServerType)` -/
  setServerIpSync : UInt32 → UInt32 → LocServerType → LocationError
  setSUPLVersionSync : UInt32 → LocationError
  setLPPConfigSync : UInt32 → LocationError
  setLPPeProtocolCpSync : UInt32 → LocationError
  setLPPeProtocolUpSync : UInt32 → LocationError
  setAGLONASSProtocolSync : UInt32 → LocationError
  setBlacklistSvSync : List GnssSvIdSource → LocationError
  setEmergencyExtensionWindowSync : UInt32 → LocationError
  setParameterSync : GnssConfig → LocationError

/-- How the system resolves a host. -/
structure Resolver where
  gethostbyname : Option (List UInt8) → Option UInt32
  inetAton : Option (List UInt8) → Option UInt32
  /-- what an address that has not been written holds -/
  unwritten : UInt32

structure GnssAdapter where
  mAfwControlId : UInt32
  mSupportNfwControl : Bool
  mServerUrl : List UInt8
  /-- `ContextBase::mGps_conf.AGPS_CONFIG_INJECT` -/
  agpsConfigInject : Bool
  /-- `isFeatureSupported(LOC_SUPPORTED_FEATURE_CONSTELLATION_ENABLEMENT_V02)` -/
  isFeatureSupported : Bool

/-- `NONE`, which stands for no host. -/
def noHost : List UInt8 := [78, 79, 78, 69]

/-- `strncasecmp` looks at the bytes in one case. -/
def toUpper (b : UInt8) : UInt8 := if 97 ≤ b && b ≤ 122 then b - 32 else b

/-- `setSuplHostServer(server, port, LOC_AGPS_SUPL_SERVER)`; the port is taken as an `int`. -/
def GnssAdapter.setSuplHostServer (adapter : GnssAdapter) (server : Option (List UInt8))
    (port : UInt32) : GnssAdapter :=
  if adapter.agpsConfigInject then
    let host := server.getD []
    if host = [] ∨ host.map toUpper = noHost then { adapter with mServerUrl := [] }
    else if port.toInt32 > 0 then
      { adapter with mServerUrl := (host ++ [58] ++ Decimal.toText port.toNat).take 255 }
    else adapter
  else adapter

/-! ## What the message prepares -/

/-- The local variables of `MsgGnssUpdateConfig::proc`. -/
structure Update where
  gnssConfigRequested : GnssConfig
  gnssConfigNeedEngineUpdate : GnssConfig
  /-- These errors are captured for `gnssUpdateConfig`, which makes its own. -/
  errs : List LocationError
  index : ℕ

def GnssAdapter.procGpsLock (adapter : GnssAdapter) (u : Update) : GnssAdapter × Update :=
  if u.gnssConfigRequested.flags.has .gpsLock then
    let requested := u.gnssConfigRequested
    let need := u.gnssConfigNeedEngineUpdate
    let newGpsLock := requested.gpsLock ||| 1#32 -- GNSS_CONFIG_GPS_LOCK_MO
    ({ adapter with mSupportNfwControl := false },
      if adapter.mAfwControlId ≠ 0 then
        if adapter.mSupportNfwControl then
          { u with
            gnssConfigRequested := { requested with gpsLock := 0#32 }
            index := u.index + 1 }
        else
          { u with
            gnssConfigRequested := { requested with gpsLock := newGpsLock }
            gnssConfigNeedEngineUpdate := { need with flags := need.flags.clear .gpsLock }
            index := u.index + 1 }
      else
        { u with
          gnssConfigRequested := { requested with gpsLock := newGpsLock }
          index := u.index + 1 })
  else (adapter, u)

def procSuplVersion (u : Update) : Update :=
  if u.gnssConfigRequested.flags.has .suplVersion then { u with index := u.index + 1 } else u

def GnssAdapter.procAssistanceData (adapter : GnssAdapter) (mConfig : GnssConfig) (u : Update) :
    GnssAdapter × Update :=
  if u.gnssConfigRequested.flags.has .setAssistanceData then
    if mConfig.assistanceServer.type = .supl then
      (adapter.setSuplHostServer mConfig.assistanceServer.hostName mConfig.assistanceServer.port,
        { u with index := u.index + 1 })
    else
      let need := u.gnssConfigNeedEngineUpdate
      (adapter,
        { u with
          gnssConfigNeedEngineUpdate := { need with flags := need.flags.clear .setAssistanceData }
          errs := u.errs.set u.index .invalidParameter
          index := u.index + 1 })
  else (adapter, u)

/-- `MsgGnssUpdateConfig::proc` up to the call of `gnssUpdateConfig`. The flags after these change
`ContextBase::mGps_conf` only. -/
def GnssAdapter.proc (adapter : GnssAdapter) (mConfig : GnssConfig) (mCount : ℕ) :
    GnssAdapter × Update :=
  let (adapter, u) := adapter.procGpsLock ⟨mConfig, mConfig, List.replicate mCount .success, 0⟩
  adapter.procAssistanceData mConfig (procSuplVersion u)

/-! ## The walk over the flags -/

/-- The list of errors with the place where the next one is put. -/
structure Walk where
  errsList : List LocationError
  index : ℕ

/-- One flag of the walk: its result is put at the index if something is sent for it, and the index
is advanced. -/
def Walk.put (count : ℕ) (flags : GnssConfigFlagsMask) (w : Walk)
    (setting : GnssConfigFlag × Option LocationError) : Walk :=
  if flags.has setting.1 then
    { errsList :=
        match setting.2 with
        | none => w.errsList
        | some err => if w.index < count then w.errsList.set w.index err else w.errsList
      index := w.index + 1 }
  else w

section Settings

variable (api : LocApi) (resolver : Resolver) (serverUrl : List UInt8) (isFeatureSupported : Bool)
  (requested need : GnssConfig)

/-- What is sent for the assistance server. -/
def sendAssistanceData : Option LocationError :=
  let server := need.assistanceServer
  match server.type with
  -- the result for the MO server is only logged
  | .supl => some (api.setServerSync serverUrl serverUrl.length .agpsSupl)
  | .c2k =>
    match resolver.gethostbyname server.hostName with
    | some addr => some (api.setServerIpSync addr server.port .agpsCdmaPde)
    | none =>
      match resolver.inetAton server.hostName with
      -- the address is sent although it is not valid, and its result replaces the error
      | none => some (api.setServerIpSync resolver.unwritten server.port .agpsCdmaPde)
      | some _ => none
  | .suplEims | .suplIms => none

/-- The flags in the order in which `gnssUpdateConfig` walks them, with what is sent for each. -/
def settings : List (GnssConfigFlag × Option LocationError) :=
  let send (flag : GnssConfigFlag) (err : LocationError) : Option LocationError :=
    if need.flags.has flag then some err else none
  [(.gpsLock, send .gpsLock (api.setGpsLockSync requested.gpsLock)),
    (.setAssistanceData, if need.flags.has .setAssistanceData then
      sendAssistanceData api resolver serverUrl need else none),
    (.suplVersion, send .suplVersion (api.setSUPLVersionSync requested.suplVersion)),
    (.lppProfile, send .lppProfile (api.setLPPConfigSync requested.lppProfileMask)),
    (.lppeControlPlane,
      send .lppeControlPlane (api.setLPPeProtocolCpSync requested.lppeControlPlaneMask)),
    (.lppeUserPlane, send .lppeUserPlane (api.setLPPeProtocolUpSync requested.lppeUserPlaneMask)),
    (.aglonassPositionProtocol, send .aglonassPositionProtocol
      (api.setAGLONASSProtocolSync requested.aGlonassPositionProtocolMask)),
    (.blacklistedSvIds, some (if isFeatureSupported then
      api.setBlacklistSvSync requested.blacklistedSvIds else .notSupported)),
    (.emergencyExtensionSeconds, send .emergencyExtensionSeconds
      (api.setEmergencyExtensionWindowSync requested.emergencyExtensionSeconds)),
    (.minSvElevation, some (api.setParameterSync { GnssConfig.empty with
      flags := BitVec.twoPow 32 GnssConfigFlag.minSvElevation.bit
      minSvElevation := requested.minSvElevation }))]

end Settings

/-- The flags that are not sent without `AGPS_CONFIG_INJECT`. -/
def injectFlags : List GnssConfigFlag :=
  [.setAssistanceData, .suplVersion, .aglonassPositionProtocol, .lppProfile]

/-- `GnssAdapter::gnssUpdateConfig` -/
def GnssAdapter.gnssUpdateConfig (adapter : GnssAdapter) (api : LocApi) (resolver : Resolver)
    (serverUrl : List UInt8) (requested need : GnssConfig) (count : ℕ) : List LocationError :=
  let flags :=
    if adapter.agpsConfigInject then requested.flags
    else injectFlags.foldl GnssConfigFlagsMask.clear requested.flags
  ((settings api resolver serverUrl adapter.isFeatureSupported requested need).foldl
    (Walk.put count flags) ⟨List.replicate (count + 1) .success, 0⟩).errsList

/-- The errors of the collective response to `gnssUpdateConfigCommand`; there is none
without flags. -/
def GnssAdapter.gnssUpdateConfigCommand (adapter : GnssAdapter) (api : LocApi) (resolver : Resolver)
    (config : GnssConfig) : List LocationError :=
  let count := countFlags 32 config.flags
  let (adapter, u) := adapter.proc config count
  (adapter.gnssUpdateConfig api resolver adapter.mServerUrl u.gnssConfigRequested
    u.gnssConfigNeedEngineUpdate count).take count

/-! ## What the errors are to be -/

section Spec

variable (adapter : GnssAdapter) (api : LocApi) (config : GnssConfig)

/-- The result of a flag's setting. -/
def GnssAdapter.settingError : GnssConfigFlag → LocationError
  | .gpsLock =>
    if adapter.mAfwControlId = 0 then api.setGpsLockSync (config.gpsLock ||| 1#32)
    else if adapter.mSupportNfwControl then api.setGpsLockSync 0#32
    else .success
  | .suplVersion =>
    if adapter.agpsConfigInject then api.setSUPLVersionSync config.suplVersion else .success
  | .setAssistanceData =>
    let server := config.assistanceServer
    if server.type = .supl then
      if adapter.agpsConfigInject then
        let serverUrl := (adapter.setSuplHostServer server.hostName server.port).mServerUrl
        api.setServerSync serverUrl serverUrl.length .agpsSupl
      else .success
    else .invalidParameter
  | .lppProfile =>
    if adapter.agpsConfigInject then api.setLPPConfigSync config.lppProfileMask else .success
  | .lppeControlPlane => api.setLPPeProtocolCpSync config.lppeControlPlaneMask
  | .lppeUserPlane => api.setLPPeProtocolUpSync config.lppeUserPlaneMask
  | .aglonassPositionProtocol =>
    if adapter.agpsConfigInject then
      api.setAGLONASSProtocolSync config.aGlonassPositionProtocolMask
    else .success
  | .blacklistedSvIds =>
    if adapter.isFeatureSupported then api.setBlacklistSvSync config.blacklistedSvIds
    else .notSupported
  | .emergencyExtensionSeconds =>
    api.setEmergencyExtensionWindowSync config.emergencyExtensionSeconds
  | .minSvElevation => api.setParameterSync { GnssConfig.empty with
      flags := BitVec.twoPow 32 GnssConfigFlag.minSvElevation.bit
      minSvElevation := config.minSvElevation }
  | .emPdnForEmSupl | .suplEmServices | .suplMode | .robustLocation | .minGpsWeek
  | .constellationSecondaryBand => .success

/-- One error for each bit that is set, from the lowest to the highest one. -/
def GnssAdapter.settingErrors : List LocationError :=
  ((List.range 32).filter config.flags.getLsbD).map fun i ↦
    match GnssConfigFlag.all[i]? with
    | some flag => adapter.settingError api config flag
    | none => .success

/-- The flags that `gnssUpdateConfig` walks. -/
def GnssAdapter.walks : GnssConfigFlag → Bool
  | .gpsLock | .lppeControlPlane | .lppeUserPlane | .blacklistedSvIds | .emergencyExtensionSeconds
  | .minSvElevation => true
  | .setAssistanceData | .suplVersion | .aglonassPositionProtocol | .lppProfile =>
    adapter.agpsConfigInject
  | .emPdnForEmSupl | .suplEmServices | .suplMode | .robustLocation | .minGpsWeek
  | .constellationSecondaryBand => false

/-- The errors are put at their places. -/
structure PlacesFit : Prop where
  type_supl : config.flags.has .setAssistanceData = true → config.assistanceServer.type = .supl
  /-- What is put at each other's place is the same. -/
  swapped : adapter.agpsConfigInject = true → config.flags.has .suplVersion = true →
    config.flags.has .setAssistanceData = true →
    adapter.settingError api config .suplVersion =
      adapter.settingError api config .setAssistanceData
  /-- Nothing is left out below an error. -/
  walks : ∀ flag flag' : GnssConfigFlag, config.flags.has flag = true →
    config.flags.has flag' = true → flag.bit < flag'.bit →
    adapter.settingError api config flag' ≠ .success → adapter.walks flag = true

end Spec

/-! ## Lists from which some entries are left out -/

section LeftOut

variable {α β : Type} (z : β) (walks : α → Bool) (v : α → β)

theorem eq_of_map_filter_append_replicate_eq {l : List α}
    (hz : ∀ a ∈ l, walks a = false → v a = z) {j : ℕ}
    (h : (l.filter walks).map v ++ List.replicate (l.countP (!walks ·) + (j + 1)) z =
      List.replicate (j + 1) z ++ l.map v) :
    ∀ a ∈ l, v a = z := by
  induction l generalizing j with
  | nil => simp
  | cons b l ih =>
    have hz' : ∀ a ∈ l, walks a = false → v a = z := fun a ha ↦ hz a (mem_cons_of_mem b ha)
    rw [forall_mem_cons]
    cases hb : walks b with
    | true =>
      rw [filter_cons_of_pos hb, countP_cons_of_neg (by simp [hb]), map_cons,
        map_cons, replicate_succ, cons_append, cons_append] at h
      obtain ⟨hvb, htail⟩ := List.cons.inj h
      refine ⟨hvb, ih hz' (j := j) ?_⟩
      rw [htail, hvb, replicate_succ', append_assoc, singleton_append]
    | false =>
      have hvb := hz b mem_cons_self hb
      rw [filter_cons_of_neg (by simp [hb]), countP_cons_of_pos (by simp [hb]),
        map_cons, hvb] at h
      refine ⟨hvb, ih hz' (j := j + 1) ?_⟩
      rw [replicate_succ' (n := j + 1), append_assoc, singleton_append, ← h]
      congr 2
      omega

/-- What is left out makes no difference iff every entry before one that counts is there. -/
theorem map_filter_append_replicate_eq_map_iff {l : List α}
    (hz : ∀ a ∈ l, walks a = false → v a = z) :
    (l.filter walks).map v ++ List.replicate (l.countP (!walks ·)) z = l.map v ↔
      l.Pairwise fun a b ↦ v b ≠ z → walks a = true := by
  induction l with
  | nil => simp
  | cons b l ih =>
    have hz' : ∀ a ∈ l, walks a = false → v a = z := fun a ha ↦ hz a (mem_cons_of_mem b ha)
    rw [pairwise_cons]
    cases hb : walks b with
    | true =>
      rw [filter_cons_of_pos hb, countP_cons_of_neg (by simp [hb]), map_cons,
        map_cons, cons_append, cons_inj_right, ih hz']
      simp
    | false =>
      have hvb := hz b mem_cons_self hb
      rw [filter_cons_of_neg (by simp [hb]), countP_cons_of_pos (by simp [hb]),
        map_cons, hvb]
      constructor
      · intro h
        have hall := eq_of_map_filter_append_replicate_eq z walks v hz' (j := 0) h
        exact ⟨fun a ha hne ↦ absurd (hall a ha) hne,
          pairwise_of_forall_mem_list fun _ _ a ha hne ↦ absurd (hall a ha) hne⟩
      · rintro ⟨hall, -⟩
        have hv : ∀ a ∈ l, v a = z := by
          intro a ha
          by_contra hne
          simpa using hall a ha hne
        rw [map_congr_left (fun a ha ↦ hv a (mem_of_mem_filter ha)),
          map_congr_left hv, map_const', map_const', ← replicate_add,
          ← replicate_succ, ← countP_eq_length_filter,
          length_eq_countP_add_countP walks]
        congr 1
        simp only [Bool.not_eq_true, Bool.decide_eq_false]
        omega

end LeftOut

/-! ## The response for a configuration -/

theorem foldl_put {count m : ℕ} {flags : GnssConfigFlagsMask}
    {settings : List (GnssConfigFlag × Option LocationError)} {w : Walk}
    (written : List LocationError) (hindex : w.index = written.length)
    (hcount : w.index + settings.countP (fun setting ↦ flags.has setting.1) ≤ count)
    (herrs : w.errsList = written ++
      List.replicate (settings.countP (fun setting ↦ flags.has setting.1) + m) .success) :
    (settings.foldl (Walk.put count flags) w).errsList =
      written ++ (settings.filter fun setting ↦ flags.has setting.1).map
        (fun setting ↦ setting.2.getD .success) ++ List.replicate m .success := by
  induction settings generalizing w written with
  | nil =>
    rw [foldl_nil, herrs, countP_nil, Nat.zero_add, filter_nil, map_nil,
      List.append_nil]
  | cons setting settings ih =>
    obtain ⟨flag, sent⟩ := setting
    rw [foldl_cons]
    cases hflag : flags.has flag with
    | false =>
      rw [countP_cons_of_neg (by simp [hflag])] at hcount herrs
      rw [filter_cons_of_neg (by simp [hflag])]
      have hput : w.put count flags (flag, sent) = w := by simp [Walk.put, hflag]
      rw [hput]
      exact ih written hindex hcount herrs
    | true =>
      rw [countP_cons_of_pos (by simp [hflag])] at hcount herrs
      rw [filter_cons_of_pos (by simp [hflag]), map_cons, append_cons]
      have hput : (w.put count flags (flag, sent)).index = w.index + 1 := by simp [Walk.put, hflag]
      apply ih
      · rw [hput, hindex, length_append, length_singleton]
      · rw [hput]
        omega
      · have hsucc : settings.countP (fun setting ↦ flags.has setting.1) + 1 + m =
            settings.countP (fun setting ↦ flags.has setting.1) + m + 1 := by omega
        rw [hsucc, replicate_succ] at herrs
        cases sent with
        | none => simp [Walk.put, hflag, herrs]
        | some err =>
          have hlt : written.length < count := by omega
          simp [Walk.put, hflag, herrs, hindex, hlt]

section Proc

variable (adapter : GnssAdapter) (config : GnssConfig)

/-- Whether the lock has to be sent. -/
def GnssAdapter.needsGpsLock : Bool := adapter.mAfwControlId = 0 || adapter.mSupportNfwControl

theorem setSuplHostServer_agpsConfigInject (host : Option (List UInt8)) (port : UInt32) :
    (adapter.setSuplHostServer host port).agpsConfigInject = adapter.agpsConfigInject := by
  simp only [GnssAdapter.setSuplHostServer]
  split_ifs <;> rfl

theorem setSuplHostServer_isFeatureSupported (host : Option (List UInt8)) (port : UInt32) :
    (adapter.setSuplHostServer host port).isFeatureSupported = adapter.isFeatureSupported := by
  simp only [GnssAdapter.setSuplHostServer]
  split_ifs <;> rfl

variable {adapter' : GnssAdapter}

theorem setSuplHostServer_mServerUrl
    (hinject : adapter'.agpsConfigInject = adapter.agpsConfigInject)
    (hurl : adapter'.mServerUrl = adapter.mServerUrl) (host : Option (List UInt8)) (port : UInt32) :
    (adapter'.setSuplHostServer host port).mServerUrl =
      (adapter.setSuplHostServer host port).mServerUrl := by
  simp only [GnssAdapter.setSuplHostServer, hinject]
  split_ifs <;> first | rfl | exact hurl

/-- What the message has done to the lock, and what it leaves as it was. -/
structure LockSet (adapter' : GnssAdapter) (u : Update) : Prop where
  agpsConfigInject : adapter'.agpsConfigInject = adapter.agpsConfigInject
  isFeatureSupported : adapter'.isFeatureSupported = adapter.isFeatureSupported
  requested : u.gnssConfigRequested =
    { config with gpsLock := u.gnssConfigRequested.gpsLock }
  gpsLock : config.flags.has .gpsLock = true → u.gnssConfigRequested.gpsLock =
    if adapter.mAfwControlId ≠ 0 ∧ adapter.mSupportNfwControl = true then 0#32
    else config.gpsLock ||| 1#32
  assistanceServer : u.gnssConfigNeedEngineUpdate.assistanceServer = config.assistanceServer

/-- The message before it looks at the assistance server. -/
structure LockPrepared (adapter' : GnssAdapter) (u : Update) : Prop
    extends LockSet adapter config adapter' u where
  mServerUrl : adapter'.mServerUrl = adapter.mServerUrl
  need : ∀ flag, config.flags.has flag = true → u.gnssConfigNeedEngineUpdate.flags.has flag =
    (flag ≠ .gpsLock || adapter.needsGpsLock)

/-- What the message hands to `gnssUpdateConfig`. -/
structure Prepared (adapter' : GnssAdapter) (u : Update) : Prop
    extends LockSet adapter config adapter' u where
  mServerUrl : config.flags.has .setAssistanceData = true →
    config.assistanceServer.type = .supl → adapter'.mServerUrl =
      (adapter.setSuplHostServer config.assistanceServer.hostName
        config.assistanceServer.port).mServerUrl
  need : ∀ flag, config.flags.has flag = true → u.gnssConfigNeedEngineUpdate.flags.has flag =
    ((flag ≠ .gpsLock || adapter.needsGpsLock) &&
      (flag ≠ .setAssistanceData || config.assistanceServer.type = .supl))

theorem lockPrepared_procGpsLock (errs : List LocationError) :
    LockPrepared adapter config (adapter.procGpsLock ⟨config, config, errs, 0⟩).1
      (adapter.procGpsLock ⟨config, config, errs, 0⟩).2 := by
  simp only [GnssAdapter.procGpsLock]
  cases hflag : config.flags.has .gpsLock with
  | false =>
    refine ⟨⟨rfl, rfl, rfl, ?_, rfl⟩, rfl, ?_⟩
    · intro h
      simp [hflag] at h
    · intro flag h
      have hne : flag ≠ .gpsLock := by
        rintro rfl
        simp [hflag] at h
      simp [h, hne]
  | true =>
    by_cases hid : adapter.mAfwControlId = 0
    · refine ⟨⟨rfl, rfl, ?_, ?_, ?_⟩, rfl, ?_⟩ <;>
        simp +contextual [hid, GnssAdapter.needsGpsLock]
    · cases hsupport : adapter.mSupportNfwControl
      · refine ⟨⟨rfl, rfl, ?_, ?_, ?_⟩, rfl, ?_⟩ <;>
          simp +contextual [hid, hsupport, GnssAdapter.needsGpsLock]
      · refine ⟨⟨rfl, rfl, ?_, ?_, ?_⟩, rfl, ?_⟩ <;>
          simp +contextual [hid, hsupport, GnssAdapter.needsGpsLock]

theorem lockPrepared_procSuplVersion {u : Update} (h : LockPrepared adapter config adapter' u) :
    LockPrepared adapter config adapter' (procSuplVersion u) := by
  rw [procSuplVersion]
  split_ifs
  · exact ⟨⟨h.agpsConfigInject, h.isFeatureSupported, h.requested, h.gpsLock, h.assistanceServer⟩,
      h.mServerUrl, h.need⟩
  · exact h

theorem prepared_procAssistanceData {u : Update} (h : LockPrepared adapter config adapter' u) :
    Prepared adapter config (adapter'.procAssistanceData config u).1
      (adapter'.procAssistanceData config u).2 := by
  have hflags : u.gnssConfigRequested.flags = config.flags := by rw [h.requested]
  rw [GnssAdapter.procAssistanceData, hflags]
  cases hflag : config.flags.has .setAssistanceData with
  | false =>
    refine ⟨h.toLockSet, ?_, ?_⟩
    · intro htrue
      simp [hflag] at htrue
    · intro flag hhas
      have hne : flag ≠ .setAssistanceData := by
        rintro rfl
        simp [hflag] at hhas
      have hneed := h.need flag hhas
      simp_all
  | true =>
    by_cases htype : config.assistanceServer.type = .supl
    · rw [if_pos rfl, if_pos htype]
      refine ⟨⟨?_, ?_, h.requested, h.gpsLock, h.assistanceServer⟩, ?_, ?_⟩
      · rw [setSuplHostServer_agpsConfigInject, h.agpsConfigInject]
      · rw [setSuplHostServer_isFeatureSupported, h.isFeatureSupported]
      · intro _ _
        exact setSuplHostServer_mServerUrl adapter h.agpsConfigInject h.mServerUrl _ _
      · intro flag hhas
        have hneed := h.need flag hhas
        simp_all
    · rw [if_pos rfl, if_neg htype]
      refine ⟨⟨h.agpsConfigInject, h.isFeatureSupported, h.requested, h.gpsLock,
        h.assistanceServer⟩, fun _ hsupl ↦ absurd hsupl htype, ?_⟩
      intro flag hhas
      have hneed := h.need flag hhas
      simp_all

theorem prepared_proc (count : ℕ) :
    Prepared adapter config (adapter.proc config count).1 (adapter.proc config count).2 :=
  prepared_procAssistanceData adapter config
    (lockPrepared_procSuplVersion adapter config (lockPrepared_procGpsLock adapter config _))

end Proc

section Response

variable (adapter : GnssAdapter) (api : LocApi) (config : GnssConfig)

/-- The flags above the assistance server, as they are walked. -/
def upperFlags : List GnssConfigFlag :=
  [.lppProfile, .lppeControlPlane, .lppeUserPlane, .aglonassPositionProtocol, .blacklistedSvIds,
    .emergencyExtensionSeconds, .minSvElevation]

/-- The flags in the order of the walk. -/
def walkOrder : List GnssConfigFlag := [.gpsLock, .setAssistanceData, .suplVersion] ++ upperFlags

/-- Whether a flag of the configuration is walked. -/
def GnssAdapter.requests (flag : GnssConfigFlag) : Bool :=
  config.flags.has flag && adapter.walks flag

/-- What the walk writes for a flag. -/
def GnssAdapter.writtenError (flag : GnssConfigFlag) : LocationError :=
  if flag = .setAssistanceData ∧ config.assistanceServer.type ≠ .supl then .success
  else adapter.settingError api config flag

theorem writtenError_settings {adapter' : GnssAdapter} {u : Update}
    (h : Prepared adapter config adapter' u) (resolver : Resolver) :
    ∀ setting ∈ settings api resolver adapter'.mServerUrl adapter'.isFeatureSupported
        u.gnssConfigRequested u.gnssConfigNeedEngineUpdate,
      adapter.requests config setting.1 = true →
        setting.2.getD .success = adapter.writtenError api config setting.1 := by
  have hneed := h.need
  simp only [settings, forall_mem_cons, not_mem_nil, false_imp_iff, implies_true,
    and_true]
  rw [h.requested, h.isFeatureSupported]
  refine ⟨?_, ?_, ?_, ?_, ?_, ?_, ?_, ?_, ?_, ?_⟩
  all_goals
    intro hreq
    obtain ⟨hhas, hwalks⟩ := Bool.and_eq_true_iff.mp hreq
  · rw [hneed _ hhas, h.gpsLock hhas]
    by_cases hid : adapter.mAfwControlId = 0
    · simp [GnssAdapter.writtenError, GnssAdapter.settingError, GnssAdapter.needsGpsLock, hid]
    · cases hsupport : adapter.mSupportNfwControl <;>
        simp [GnssAdapter.writtenError, GnssAdapter.settingError, GnssAdapter.needsGpsLock, hid,
          hsupport]
  · rw [hneed _ hhas]
    by_cases htype : config.assistanceServer.type = .supl
    · have hurl := h.mServerUrl hhas htype
      have hinject : adapter.agpsConfigInject = true := hwalks
      simp [GnssAdapter.writtenError, GnssAdapter.settingError, sendAssistanceData,
        h.assistanceServer, htype, hurl, hinject]
    · simp [GnssAdapter.writtenError, htype]
  all_goals
    try have hinject : adapter.agpsConfigInject = true := hwalks
    simp_all [GnssAdapter.writtenError, GnssAdapter.settingError]

variable {flag : GnssConfigFlag}

theorem has_walked (hflag : flag ∈ walkOrder) (mask : GnssConfigFlagsMask) :
    (if adapter.agpsConfigInject then mask
      else injectFlags.foldl GnssConfigFlagsMask.clear mask).has flag =
        (mask.has flag && adapter.walks flag) := by
  cases hinject : adapter.agpsConfigInject
  all_goals
    revert flag
    simp [walkOrder, upperFlags, injectFlags, GnssAdapter.walks, hinject]

theorem mem_walkOrder_of_walks (h : adapter.walks flag = true) :
    flag ∈ walkOrder := by
  cases flag <;> first | decide | cases h

/-- The set flags that are walked, from low to high. -/
theorem filter_walks_filter_has :
    (GnssConfigFlag.all.filter config.flags.has).filter adapter.walks =
      ([GnssConfigFlag.gpsLock, .suplVersion, .setAssistanceData] ++ upperFlags).filter
        (adapter.requests config) := by
  have hall : [GnssConfigFlag.gpsLock, .suplVersion, .setAssistanceData] ++ upperFlags =
      GnssConfigFlag.all.filter fun flag ↦ flag ∈ walkOrder := rfl
  rw [hall, filter_filter, filter_filter]
  apply filter_congr
  intro flag _
  cases hwalks : adapter.walks flag
  · simp [GnssAdapter.requests, hwalks]
  · simp [GnssAdapter.requests, hwalks, mem_walkOrder_of_walks adapter hwalks]

theorem perm_filter_requests :
    (walkOrder.filter (adapter.requests config)).Perm
      ((GnssConfigFlag.all.filter config.flags.has).filter adapter.walks) := by
  rw [filter_walks_filter_has, walkOrder]
  apply List.Perm.filter
  exact (List.Perm.swap _ _ _).cons _

theorem countFlags_eq_length_add :
    countFlags 32 config.flags = (GnssConfigFlag.all.filter config.flags.has).length +
      (List.range 16).countP (fun i ↦ config.flags.getLsbD (16 + i)) := by
  have hrange : List.range 32 = GnssConfigFlag.all.map GnssConfigFlag.bit ++
    (List.range 16).map (16 + ·) := rfl
  rw [countFlags_eq_countP, hrange, countP_append, countP_map, countP_map,
    ← countP_eq_length_filter]
  rfl

theorem settingErrors_eq :
    adapter.settingErrors api config =
      (GnssConfigFlag.all.filter config.flags.has).map (adapter.settingError api config) ++
        List.replicate ((List.range 16).countP fun i ↦ config.flags.getLsbD (16 + i)) .success := by
  have hrange : List.range 32 = GnssConfigFlag.all.map GnssConfigFlag.bit ++
    (List.range 16).map (16 + ·) := rfl
  rw [GnssAdapter.settingErrors, hrange, filter_append, map_append, filter_map,
    filter_map, map_map, map_map]
  congr 1
  · apply map_congr_left
    intro flag _
    simp only [Function.comp_apply, GnssConfigFlag.getElem?_all_bit]
  · rw [countP_eq_length_filter, ← map_const']
    apply map_congr_left
    intro i hi
    have hlen : GnssConfigFlag.all.length = 16 := rfl
    have hnone : GnssConfigFlag.all[16 + i]? = none := getElem?_eq_none (by omega)
    simp only [Function.comp_apply, hnone]

/-- The errors of the response stand in the order of the walk, and behind them nothing is known to
have failed. -/
theorem gnssUpdateConfigCommand_eq (resolver : Resolver) :
    adapter.gnssUpdateConfigCommand api resolver config =
      (walkOrder.filter (adapter.requests config)).map (adapter.writtenError api config) ++
        List.replicate (countFlags 32 config.flags -
          (walkOrder.filter (adapter.requests config)).length) .success := by
  have hle : (walkOrder.filter (adapter.requests config)).length ≤ countFlags 32 config.flags := by
    rw [countFlags_eq_length_add, (perm_filter_requests adapter config).length_eq]
    exact (length_filter_le _ _).trans (Nat.le_add_right _ _)
  rw [GnssAdapter.gnssUpdateConfigCommand]
  have hprepared := prepared_proc adapter config (countFlags 32 config.flags)
  generalize adapter.proc config (countFlags 32 config.flags) = result at hprepared ⊢
  obtain ⟨adapter', u⟩ := result
  have hwritten := writtenError_settings adapter api config hprepared resolver
  simp only [GnssAdapter.gnssUpdateConfig] at hwritten hprepared ⊢
  set given := settings api resolver adapter'.mServerUrl adapter'.isFeatureSupported
    u.gnssConfigRequested u.gnssConfigNeedEngineUpdate
  set mask := if adapter'.agpsConfigInject then u.gnssConfigRequested.flags
    else injectFlags.foldl GnssConfigFlagsMask.clear u.gnssConfigRequested.flags with hmask
  have hfst : given.map Prod.fst = walkOrder := rfl
  have hfilter : given.filter (fun setting ↦ mask.has setting.1) =
      given.filter (fun setting ↦ adapter.requests config setting.1) := by
    apply filter_congr
    intro setting hmem
    rw [hmask, hprepared.agpsConfigInject, hprepared.requested]
    exact has_walked adapter (hfst ▸ mem_map_of_mem hmem) config.flags
  have hmap : (walkOrder.filter (adapter.requests config)).map (adapter.writtenError api config) =
      (given.filter (fun setting ↦ adapter.requests config setting.1)).map
        (fun setting ↦ setting.2.getD .success) := by
    rw [← hfst, filter_map, map_map]
    apply map_congr_left
    intro setting hmem
    obtain ⟨hmem, hreq⟩ := mem_filter.mp hmem
    exact (hwritten setting hmem hreq).symm
  have hlen : given.countP (fun setting ↦ mask.has setting.1) =
      (walkOrder.filter (adapter.requests config)).length := by
    rw [countP_eq_length_filter, hfilter, ← hfst, filter_map, length_map]
    rfl
  rw [foldl_put (m := countFlags 32 config.flags + 1 -
    (walkOrder.filter (adapter.requests config)).length) [] rfl, nil_append, hfilter, ← hmap,
    take_append, take_of_length_le, take_replicate, length_map]
  · congr 2
    omega
  · rwa [length_map]
  · simpa [hlen] using hle
  · rw [nil_append, hlen, Nat.add_sub_cancel' (hle.trans (Nat.le_succ _))]

def failed (err : LocationError) : Bool := err ≠ .success

theorem failed_settingError_of_writtenError
    (h : failed (adapter.writtenError api config flag) = true) :
    failed (adapter.settingError api config flag) = true := by
  rw [GnssAdapter.writtenError] at h
  split_ifs at h with hassist
  · cases h
  · exact h

/-- A wrong type of assistance server is an error that the response does not have. -/
theorem gnssUpdateConfigCommand_ne_of_type (resolver : Resolver)
    (hflag : config.flags.has .setAssistanceData = true)
    (htype : config.assistanceServer.type ≠ .supl) :
    adapter.gnssUpdateConfigCommand api resolver config ≠ adapter.settingErrors api config := by
  intro h
  -- the response has fewer errors than there are settings that fail
  have hcount := congrArg (List.countP failed) h
  rw [gnssUpdateConfigCommand_eq, settingErrors_eq, countP_append, countP_append,
    countP_replicate, countP_replicate, countP_map, countP_map,
    (perm_filter_requests adapter config).countP_eq, if_neg (by decide), if_neg (by decide)]
    at hcount
  have hle : ((GnssConfigFlag.all.filter config.flags.has).filter adapter.walks).countP
      (failed ∘ adapter.writtenError api config) ≤ (GnssConfigFlag.all.filter
        config.flags.has).countP (failed ∘ adapter.writtenError api config) :=
    filter_sublist.countP_le
  have hmem : GnssConfigFlag.setAssistanceData ∈ GnssConfigFlag.all.filter config.flags.has :=
    mem_filter.mpr ⟨by decide, hflag⟩
  obtain ⟨low, high, hsplit⟩ := append_of_mem hmem
  have hmono : ∀ flags : List GnssConfigFlag,
      flags.countP (failed ∘ adapter.writtenError api config) ≤
        flags.countP (failed ∘ adapter.settingError api config) := by
    intro flags
    apply countP_mono_left
    intro flag _ hfailed
    exact failed_settingError_of_writtenError adapter api config hfailed
  have hlow := hmono low
  have hhigh := hmono high
  have hwritten : ¬(failed ∘ adapter.writtenError api config) .setAssistanceData = true := by
    simp [GnssAdapter.writtenError, htype, failed]
  have hsetting : (failed ∘ adapter.settingError api config) .setAssistanceData = true := by
    simp [GnssAdapter.settingError, htype, failed]
  rw [hsplit] at hle hcount
  rw [countP_append, countP_cons_of_pos hsetting] at hcount
  rw [countP_append, countP_cons_of_neg hwritten] at hle
  omega

/-- The walk takes the flags from low to high, unless it finds both of those that change places. -/
theorem filter_requests_eq (h : ¬(adapter.requests config .suplVersion = true ∧
      adapter.requests config .setAssistanceData = true)) :
    walkOrder.filter (adapter.requests config) =
      (GnssConfigFlag.all.filter config.flags.has).filter adapter.walks := by
  rw [filter_walks_filter_has, walkOrder, filter_append, filter_append]
  congr 1
  cases hsupl : adapter.requests config .suplVersion
  · simp [filter_cons, hsupl]
  · have hassist : adapter.requests config .setAssistanceData = false := by
      simpa [hsupl] using h
    simp [filter_cons, hassist]

theorem pairwise_filter_has_iff (R : GnssConfigFlag → GnssConfigFlag → Prop) :
    (GnssConfigFlag.all.filter config.flags.has).Pairwise R ↔
      ∀ flag flag' : GnssConfigFlag, config.flags.has flag = true →
        config.flags.has flag' = true → flag.bit < flag'.bit → R flag flag' := by
  rw [pairwise_filter]
  constructor
  · intro h flag flag' hflag hflag' hlt
    rw [pairwise_iff_getElem] at h
    obtain ⟨hi, heq⟩ := List.getElem?_eq_some_iff.mp flag.getElem?_all_bit
    obtain ⟨hj, heq'⟩ := List.getElem?_eq_some_iff.mp flag'.getElem?_all_bit
    have hR := h _ _ hi hj hlt
    rw [heq, heq'] at hR
    exact hR hflag hflag'
  · intro h
    have hsorted : GnssConfigFlag.all.Pairwise fun flag flag' ↦ flag.bit < flag'.bit := by decide
    exact hsorted.imp fun hlt hflag hflag' ↦ h _ _ hflag hflag' hlt

/-- The set flags below and above the two that change places. -/
theorem filter_has_eq (hsupl : config.flags.has .suplVersion = true)
    (hassist : config.flags.has .setAssistanceData = true) :
    ∃ high, GnssConfigFlag.all.filter config.flags.has =
      [GnssConfigFlag.gpsLock].filter config.flags.has ++
        [.suplVersion, .setAssistanceData] ++ high := by
  refine ⟨(GnssConfigFlag.all.drop 3).filter config.flags.has, ?_⟩
  rw [show GnssConfigFlag.all = [.gpsLock] ++ [.suplVersion, .setAssistanceData] ++
    GnssConfigFlag.all.drop 3 from rfl, filter_append, filter_append]
  congr 2
  simp [hsupl, hassist]

theorem filter_requests_append {flag flag' : GnssConfigFlag}
    (h : adapter.requests config flag = true) (h' : adapter.requests config flag' = true) :
    ([.gpsLock, flag, flag'] ++ upperFlags).filter (adapter.requests config) =
      [GnssConfigFlag.gpsLock].filter config.flags.has ++ [flag, flag'] ++
        upperFlags.filter (adapter.requests config) := by
  have hlock : adapter.requests config .gpsLock = config.flags.has .gpsLock := by
    simp [GnssAdapter.requests, GnssAdapter.walks]
  rw [filter_append, ← singleton_append, filter_append,
    filter_cons_of_pos h, filter_cons_of_pos h', filter_nil]
  congr 2
  simp [filter_cons, hlock]

theorem settingError_eq_success_of_not_walks
    (htype : config.flags.has .setAssistanceData = true → config.assistanceServer.type = .supl)
    (hflag : config.flags.has flag = true) (h : adapter.walks flag = false) :
    adapter.settingError api config flag = .success := by
  cases flag <;> simp_all [GnssAdapter.walks, GnssAdapter.settingError]

/-- The errors are right once what changes places is the same, if the walk leaves nothing out below
an error. -/
theorem map_filter_requests_eq_iff
    (htype : config.flags.has .setAssistanceData = true → config.assistanceServer.type = .supl) :
    (walkOrder.filter (adapter.requests config)).map (adapter.settingError api config) ++
        List.replicate ((GnssConfigFlag.all.filter config.flags.has).countP (!adapter.walks ·))
          .success =
      (GnssConfigFlag.all.filter config.flags.has).map (adapter.settingError api config) ↔
      PlacesFit adapter api config := by
  have hleft := map_filter_append_replicate_eq_map_iff .success adapter.walks
    (adapter.settingError api config) (l := GnssConfigFlag.all.filter config.flags.has)
    fun flag hmem hwalks ↦ settingError_eq_success_of_not_walks adapter api config htype
      (mem_filter.mp hmem).2 hwalks
  rw [pairwise_filter_has_iff] at hleft
  by_cases hswap : adapter.requests config .suplVersion = true ∧
      adapter.requests config .setAssistanceData = true
  · obtain ⟨hsupl, hassist⟩ := hswap
    obtain ⟨hsupl', hinject⟩ := Bool.and_eq_true_iff.mp hsupl
    obtain ⟨hassist', -⟩ := Bool.and_eq_true_iff.mp hassist
    have hwalk : walkOrder.filter (adapter.requests config) = _ :=
      filter_requests_append adapter config hassist hsupl
    have hlow := (filter_walks_filter_has adapter config).trans
      (filter_requests_append adapter config hsupl hassist)
    have hsame : adapter.settingError api config .suplVersion =
        adapter.settingError api config .setAssistanceData →
        (walkOrder.filter (adapter.requests config)).map (adapter.settingError api config) =
          ((GnssConfigFlag.all.filter config.flags.has).filter adapter.walks).map
            (adapter.settingError api config) := by
      intro heq
      rw [hwalk, hlow]
      simp [heq]
    constructor
    · intro h
      have heq : adapter.settingError api config .suplVersion =
          adapter.settingError api config .setAssistanceData := by
        obtain ⟨high, hhas⟩ := filter_has_eq config hsupl' hassist'
        have h' := h
        rw [hwalk, hhas] at h'
        simp only [map_append, append_assoc, append_right_inj, map_cons,
          cons_append, List.cons.injEq] at h'
        exact h'.2.1
      rw [hsame heq] at h
      exact ⟨htype, fun _ _ _ ↦ heq, hleft.mp h⟩
    · intro h
      rw [hsame (h.swapped hinject hsupl' hassist')]
      exact hleft.mpr h.walks
  · rw [filter_requests_eq adapter config hswap, hleft]
    refine ⟨fun h ↦ ⟨htype, fun hinject hsupl hassist ↦ absurd ?_ hswap, h⟩, fun h ↦ h.walks⟩
    simp [GnssAdapter.requests, GnssAdapter.walks, hinject, hsupl, hassist]

/-- The errors of the collective response are the results of the settings, one for each bit that is
set and from low to high, iff the type of the assistance server is right, the results of the SUPL
version and of the assistance server are the same where the two change places, and no flag below one
that fails is left out. -/
theorem gnssUpdateConfig_errors_iff (resolver : Resolver) :
    adapter.gnssUpdateConfigCommand api resolver config = adapter.settingErrors api config ↔
      PlacesFit adapter api config := by
  by_cases htype : config.flags.has .setAssistanceData = true →
      config.assistanceServer.type = .supl
  · have hlen : countFlags 32 config.flags -
          (walkOrder.filter (adapter.requests config)).length =
        (GnssConfigFlag.all.filter config.flags.has).countP (!adapter.walks ·) +
          (List.range 16).countP (fun i ↦ config.flags.getLsbD (16 + i)) := by
      have hcount := length_eq_countP_add_countP adapter.walks
        (l := GnssConfigFlag.all.filter config.flags.has)
      simp only [Bool.not_eq_true, Bool.decide_eq_false] at hcount
      rw [countFlags_eq_length_add, (perm_filter_requests adapter config).length_eq, hcount,
        countP_eq_length_filter]
      omega
    have hwritten : (walkOrder.filter (adapter.requests config)).map
        (adapter.writtenError api config) = (walkOrder.filter (adapter.requests config)).map
          (adapter.settingError api config) := by
      apply map_congr_left
      intro flag hmem
      have hhas : config.flags.has flag = true :=
        (Bool.and_eq_true_iff.mp (mem_filter.mp hmem).2).1
      rw [GnssAdapter.writtenError, if_neg]
      rintro ⟨rfl, hne⟩
      exact hne (htype hhas)
    rw [gnssUpdateConfigCommand_eq, settingErrors_eq, hlen, hwritten, replicate_add,
      ← append_assoc, append_left_inj, map_filter_requests_eq_iff adapter api config htype]
  · obtain ⟨hflag, hne⟩ := Classical.not_imp.mp htype
    exact ⟨fun h ↦ absurd h (gnssUpdateConfigCommand_ne_of_type adapter api config resolver hflag hne),
      fun h ↦ absurd h.type_supl htype⟩

end Response

/-- A modem that takes every setting but the SUPL server. -/
def sampleApi : LocApi where
  setGpsLockSync _ := .success
  setServerSync _ _ _ := .timeout
  setServerIpSync _ _ _ := .success
  setSUPLVersionSync _ := .success
  setLPPConfigSync _ := .success
  setLPPeProtocolCpSync _ := .success
  setLPPeProtocolUpSync _ := .success
  setAGLONASSProtocolSync _ := .success
  setBlacklistSvSync _ := .success
  setEmergencyExtensionWindowSync _ := .success
  setParameterSync _ := .success

/-- The SUPL version and the assistance server are set together: the error of the server stands at
the place of the version. -/
theorem not_gnssUpdateConfig_errors :
    ¬ ∀ (adapter : GnssAdapter) (api : LocApi) (resolver : Resolver) (config : GnssConfig),
      adapter.gnssUpdateConfigCommand api resolver config = adapter.settingErrors api config := by
  intro h
  have herrs := h ⟨0, true, [58], true, true⟩ sampleApi ⟨fun _ ↦ none, fun _ ↦ none, 0⟩
    { GnssConfig.empty with flags := 0x6#32 }
  have hresponse : GnssAdapter.gnssUpdateConfigCommand ⟨0, true, [58], true, true⟩ sampleApi
      ⟨fun _ ↦ none, fun _ ↦ none, 0⟩ { GnssConfig.empty with flags := 0x6#32 } =
        [.timeout, .success] := by decide
  have hsettings : GnssAdapter.settingErrors ⟨0, true, [58], true, true⟩ sampleApi
      { GnssConfig.empty with flags := 0x6#32 } = [.success, .timeout] := by decide
  rw [hresponse, hsettings] at herrs
  exact absurd herrs (by decide)

end UpdateConfig

end MataDevice.Gnss
