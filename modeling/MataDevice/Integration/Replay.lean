import MataDevice.Integration.Acknowledgements

/-!
# Configurations after a restart

What the client sends again is one message for each of its caches. A configuration is made of items:
each type of lever arm, each parameter of the dead reckoning engine and each engine is one. The law
is that the messages set each item to what the last call that set it asked for, and no other item.

For most caches this is so: the cache is the last call of its function, and that call set all items
the function can set. The lever arms and the dead reckoning parameters of a call are a part of what
can be set, and the cache is the last call and not what all calls together set. The constellations
are sent when either they or the secondary band were configured.
-/

namespace MataDevice.Integration

open List
open Option (some_inj)

variable {ρ : Type}

/-! ## Items -/

inductive LeverArmType
  | gnssToVRP
  | drImuToGnss
  | veppImuToGnss
  deriving DecidableEq, Repr

def LeverArmType.bit : LeverArmType → UInt32
  | gnssToVRP => 1
  | drImuToGnss => 2
  | veppImuToGnss => 4

inductive DreParam
  | bodyToSensorMountParams
  | vehicleSpeedScaleFactor
  | vehicleSpeedScaleFactorUnc
  | gyroScaleFactor
  | gyroScaleFactorUnc
  deriving DecidableEq, Repr

def DreParam.bit : DreParam → UInt64
  | bodyToSensorMountParams => 1
  | vehicleSpeedScaleFactor => 2
  | vehicleSpeedScaleFactorUnc => 4
  | gyroScaleFactor => 8
  | gyroScaleFactorUnc => 16

inductive ConfigItem
  | constellations
  | secondaryBand
  | tunc
  | clockEstimator
  | leverArm (t : LeverArmType)
  | robustLocation
  | dre (p : DreParam)
  | userConsent
  | engine (e : PositioningEngine)
  deriving DecidableEq, Repr

inductive ConfigValue (ρ : Type)
  | constellations (enablement : GnssSvTypeConfig) (blacklist : GnssSvIdConfig)
  | secondaryBand (config : GnssSvTypeConfig)
  | tunc (enable : Bool) (threshold : ρ) (energyBudget : UInt32)
  | flag (enable : Bool)
  | leverArm (params : LeverArmParams ρ)
  | robustLocation (enable enableForE911 : Bool)
  | mountParams (params : BodyToSensorMountParams ρ)
  | factor (value : ρ)
  | runState (state : LocEngineRunState)
  deriving DecidableEq, Repr

def LeverArmConfigInfo.params (info : LeverArmConfigInfo ρ) : LeverArmType → LeverArmParams ρ
  | .gnssToVRP => info.gnssToVRP
  | .drImuToGnss => info.drImuToGnss
  | .veppImuToGnss => info.veppImuToGnss

/-- What a lever arm message sets a type to -/
def LeverArmConfigInfo.value (info : LeverArmConfigInfo ρ) (t : LeverArmType) :
    Option (ConfigValue ρ) :=
  if info.leverArmValidMask &&& t.bit != 0 then some (.leverArm (info.params t)) else none

def DeadReckoningEngineConfig.param (config : DeadReckoningEngineConfig ρ) :
    DreParam → ConfigValue ρ
  | .bodyToSensorMountParams => .mountParams config.bodyToSensorMountParams
  | .vehicleSpeedScaleFactor => .factor config.vehicleSpeedScaleFactor
  | .vehicleSpeedScaleFactorUnc => .factor config.vehicleSpeedScaleFactorUnc
  | .gyroScaleFactor => .factor config.gyroScaleFactor
  | .gyroScaleFactorUnc => .factor config.gyroScaleFactorUnc

/-- What a dead reckoning message sets a parameter to -/
def DeadReckoningEngineConfig.value (config : DeadReckoningEngineConfig ρ) (p : DreParam) :
    Option (ConfigValue ρ) :=
  if config.validMask &&& p.bit != 0 then some (config.param p) else none

/-- What a message sets an item to -/
def Request.value : Request ρ → ConfigItem → Option (ConfigValue ρ)
  | .configConstellations enablement blacklist, .constellations =>
    some (.constellations enablement blacklist)
  | .configConstellationSecondaryBand config, .secondaryBand => some (.secondaryBand config)
  | .configConstrainedTimeUncertainty enable threshold budget, .tunc =>
    some (.tunc enable threshold budget)
  | .configPositionAssistedClockEstimator enable, .clockEstimator => some (.flag enable)
  | .configLeverArm info, .leverArm t => info.value t
  | .configRobustLocation enable enableForE911, .robustLocation =>
    some (.robustLocation enable enableForE911)
  | .configDeadReckoningEngineParams config, .dre p => config.value p
  | .setUserConsentForTerrestrialPositioning consent, .userConsent => some (.flag consent)
  | .configEngineRunState engType state, .engine e =>
    if engType = e then some (.runState state) else none
  | _, _ => none

/-! ## Caches and calls -/

/-- What `f` reads off a call -/
def Event.read {β : Type} (f : Request ρ → Option β) : Event ρ → Option β
  | .call req _ => f req
  | _ => none

/-- What `f` reads off the last call that it applies to -/
def lastCall {β : Type} (f : Request ρ → Option β) (hist : List (Item (Event ρ) (Output ρ))) :
    Option β :=
  latest (fun
    | .event e => e.read f
    | .out _ => none) hist

theorem lastCall_append_entry {β : Type} (f : Request ρ → Option β)
    (hist : List (Item (Event ρ) (Output ρ))) (e : Event ρ) (outs : List (Output ρ)) :
    lastCall f (hist ++ entry e outs) = (e.read f).or (lastCall f hist) :=
  latest_append_entry (fun _ ↦ rfl) hist e outs

section LastCall

variable {β γ : Type} {f : Request ρ → Option β} {hist : List (Item (Event ρ) (Output ρ))}

theorem lastCall_eq_none_iff :
    lastCall f hist = none ↔ ∀ req rc, .event (.call req rc) ∈ hist → f req = none := by
  rw [lastCall, latest_eq_none_iff]
  constructor
  · exact fun h req rc hmem ↦ h _ hmem
  · intro h x hx
    cases x with
    | event e =>
      cases e with
      | call req rc => exact h req rc hx
      | _ => rfl
    | out o => rfl

/-- What was read off some call -/
theorem of_lastCall {P : β → Prop} {y : β} (hf : ∀ req y, f req = some y → P y)
    (h : lastCall f hist = some y) : P y := by
  obtain ⟨x, -, hx⟩ := exists_of_findSome?_eq_some h
  cases x with
  | event e =>
    cases e with
    | call req rc => exact hf req y hx
    | _ => cases hx
  | out o => cases hx

theorem lastCall_map (g : β → γ) :
    lastCall (fun req ↦ (f req).map g) hist = (lastCall f hist).map g := by
  rw [lastCall, lastCall, ← latest_map]
  congr 1
  funext x
  cases x with
  | event e => cases e <;> rfl
  | out o => rfl

/-- The parts that the last call sets are the last to be set. So it is the last call that counts for
a part exactly when it sets the part if any call does. -/
theorem lastCall_bind_eq_iff {g : β → Option γ} :
    (lastCall f hist).bind g = lastCall (fun req ↦ (f req).bind g) hist ↔
      ∀ req rc, .event (.call req rc) ∈ hist → (f req).bind g ≠ none →
        ∃ last, lastCall f hist = some last ∧ g last ≠ none := by
  have hlast : ∀ z, (lastCall f hist).bind g = some z →
      lastCall (fun req ↦ (f req).bind g) hist = some z := by
    intro z hz
    rw [← latest_bind hz, lastCall]
    congr 1
    funext x
    cases x with
    | event e => cases e <;> rfl
    | out o => rfl
  constructor
  · intro heq req rc hmem hreq
    have hne : (lastCall f hist).bind g ≠ none := by
      rw [heq]
      exact fun hnone ↦ hreq (lastCall_eq_none_iff.mp hnone req rc hmem)
    cases h : lastCall f hist with
    | none =>
      rw [h] at hne
      exact absurd rfl hne
    | some last =>
      rw [h] at hne
      exact ⟨last, rfl, hne⟩
  · intro h
    cases hz : (lastCall f hist).bind g with
    | some z => exact (hlast z hz).symm
    | none =>
      refine (lastCall_eq_none_iff.mpr fun req rc hmem ↦ ?_).symm
      by_contra hne
      obtain ⟨last, heq, hset⟩ := h req rc hmem hne
      rw [heq] at hz
      exact hset hz

end LastCall

/-- A cache has what `proj` reads off the last call it applies to. For most caches this is what
the definitions say. -/
structure Caches {β : Type} (cache : Api ρ → β) (proj : Request ρ → Option β) : Prop where
  counts : ∀ (api : Api ρ) map, cache { api with mConfigReqCntMap := map } = cache api := by
    intros; rfl
  registered : ∀ api : Api ρ, cache { api with mHalRegistered := true } = cache api := by
    intros; rfl
  accepted : ∀ (api : Api ρ) req, api.accepts req = true →
      cache (Api.remember req api) = (proj req).getD (cache api) := by
    intro _ req _; cases req <;> rfl
  rejected : ∀ (api : Api ρ) req, api.accepts req = false → proj req = none := by
    intro _ req hacc; cases req <;> first | rfl | cases hacc

namespace Caches

variable {β : Type} {cache : Api ρ → β} {proj : Request ρ → Option β}

theorem onlyCounts (h : Caches cache proj) {api api' : Api ρ} (hcounts : api.OnlyCounts api') :
    cache api' = cache api := by
  obtain ⟨map, rfl⟩ := hcounts
  exact h.counts api map

theorem call (h : Caches cache proj) (api : Api ρ) (req : Request ρ) (rc : Bool) :
    cache (api.call req rc).1 = (proj req).getD (cache api) := by
  rw [Api.call_eq]
  by_cases hacc : api.accepts req = true
  · obtain ⟨map, hmap⟩ := Api.onlyCounts_sendConfigMsgToHalDaemon req.type req rc true api
    have hacc' : Api.accepts { api with mConfigReqCntMap := map } req = true := by
      cases req <;> exact hacc
    rw [if_pos hacc, hmap]
    exact (h.accepted _ req hacc').trans (congrArg _ (h.counts api map))
  · rw [if_neg hacc, h.rejected api req (Bool.eq_false_iff.mpr hacc)]
    rfl

theorem processHalReadyMsg (h : Caches cache proj) (api : Api ρ) (rc : Bool)
    (sends : Request ρ → Bool) : cache (api.processHalReadyMsg rc sends).1 = cache api := by
  have hregistered : ∀ api : Api ρ, cache (api.sendClientRegMsgToHalDaemon rc) = cache api := by
    intro api
    cases rc
    · rfl
    · exact h.registered api
  rw [Api.processHalReadyMsg, h.onlyCounts (Api.onlyCounts_sendAll _ _ _), hregistered]
  exact h.counts api .empty

/-- The cache after a run -/
theorem of_run [Zero ρ] (h : Caches cache proj) {guard : System ρ → Event ρ → Prop}
    {cbs : LocIntegrationCbs} {hist : List (Item (Event ρ) (Output ρ))} {s : System ρ}
    (hrun : Run System.step guard (System.init cbs) hist s) :
    cache s.api = (lastCall proj hist).getD (cache (.init cbs)) := by
  refine hrun.invariant (I := fun hist s ↦
    cache s.api = (lastCall proj hist).getD (cache (.init cbs))) rfl ?_
  intro hist s e s' outs ih _ hstep
  rw [lastCall_append_entry]
  cases e with
  | call req rc =>
    rw [System.step_call] at hstep
    obtain ⟨rfl, rfl⟩ := some_pair_inj hstep
    rw [h.call, ih, Event.read]
    cases proj req <;> simp
  | listenerReady rc =>
    obtain ⟨rfl, rfl⟩ := some_pair_inj hstep
    cases rc
    · exact ih
    · exact (h.registered s.api).trans ih
  | answer i err =>
    simp only [System.step] at hstep
    split at hstep
    · cases hstep
    · obtain ⟨rfl, rfl⟩ := some_pair_inj hstep
      exact ih
  | restart =>
    obtain ⟨rfl, rfl⟩ := some_pair_inj hstep
    exact ih
  | deliver rc sends =>
    simp only [System.step] at hstep
    split at hstep
    · cases hstep
    · obtain ⟨rfl, rfl⟩ := some_pair_inj hstep
      exact (h.processHalReadyMsg s.api rc sends).trans ih
    · next msgId err link hlink =>
      obtain ⟨rfl, rfl⟩ := some_pair_inj hstep
      exact (h.onlyCounts (Api.onlyCounts_processConfigRespCb _ msgId err)).trans ih

end Caches

namespace Request

/-! What a cache keeps of a call -/

def tunc? : Request ρ → Option (TuncConfigInfo ρ)
  | .configConstrainedTimeUncertainty enable threshold budget =>
    some ⟨true, enable, threshold, budget⟩
  | _ => none

def pace? : Request ρ → Option PaceConfigInfo
  | .configPositionAssistedClockEstimator enable => some ⟨true, enable⟩
  | _ => none

def robustLocation? : Request ρ → Option RobustLocationConfigInfo
  | .configRobustLocation enable enableForE911 => some ⟨true, enable, enableForE911⟩
  | _ => none

def userConsent? : Request ρ → Option GtpUserConsentConfigInfo
  | .setUserConsentForTerrestrialPositioning consent => some ⟨true, consent⟩
  | _ => none

def dre? : Request ρ → Option (DeadReckoningEngineConfigInfo ρ)
  | .configDeadReckoningEngineParams config => some ⟨true, config⟩
  | _ => none

/-- Without a lever arm there is no request. -/
def leverArm? : Request ρ → Option (LeverArmConfigInfo ρ)
  | .configLeverArm info => if info.leverArmValidMask != 0 then some info else none
  | _ => none

def constellations? : Request ρ → Option (GnssSvTypeConfig × GnssSvIdConfig)
  | .configConstellations enablement blacklist => some (enablement, blacklist)
  | _ => none

def secondaryBand? : Request ρ → Option GnssSvTypeConfig
  | .configConstellationSecondaryBand config => some config
  | _ => none

/-- Either call makes the constellations valid. -/
def svConfig? : Request ρ → Option Bool
  | .configConstellations _ _ => some true
  | .configConstellationSecondaryBand _ => some true
  | _ => none

/-- The map has an entry for the engine after the call. -/
def runState? (e : PositioningEngine) : Request ρ → Option (Option LocEngineRunState)
  | .configEngineRunState engType state => if engType = e then some (some state) else none
  | _ => none

end Request

section Caches

/-- The caches that are what the definitions say -/
theorem caches_plain :
    Caches (fun api : Api ρ ↦ api.mTuncConfigInfo) Request.tunc? ∧
    Caches (fun api : Api ρ ↦ api.mPaceConfigInfo) Request.pace? ∧
    Caches (fun api : Api ρ ↦ api.mRobustLocationConfigInfo) Request.robustLocation? ∧
    Caches (fun api : Api ρ ↦ api.mGtpUserConsentConfigInfo) Request.userConsent? ∧
    Caches (fun api : Api ρ ↦ api.mDreConfigInfo) Request.dre? ∧
    Caches (fun api : Api ρ ↦
      (api.mSvConfigInfo.constellationEnablementConfig, api.mSvConfigInfo.blacklistSvConfig))
      Request.constellations? ∧
    Caches (fun api : Api ρ ↦ api.mSvConfigInfo.secondaryBandConfig) Request.secondaryBand? ∧
    Caches (fun api : Api ρ ↦ api.mSvConfigInfo.isValid) Request.svConfig? :=
  ⟨{}, {}, {}, {}, {}, {}, {}, {}⟩

theorem caches_leverArm : Caches (fun api : Api ρ ↦ api.mLeverArmConfigInfo) Request.leverArm? where
  accepted _ req hacc := by
    cases req with
    | configLeverArm info =>
      have hmask : (info.leverArmValidMask != 0) = true := hacc
      simp [Request.leverArm?, Api.remember, hmask]
    | _ => rfl
  rejected _ req hacc := by
    cases req with
    | configLeverArm info => exact if_neg (Bool.eq_false_iff.mp hacc)
    | _ => rfl

theorem caches_runState (e : PositioningEngine) :
    Caches (fun api : Api ρ ↦ api.mEngRunStateConfigMap.find? e) (Request.runState? e) where
  accepted api req _ := by
    cases req with
    | configEngineRunState engType state =>
      refine (OrderedMap.find?_insert e).trans ?_
      by_cases he : engType = e
      · simp [Request.runState?, he]
      · simp [Request.runState?, he, Ne.symm he]
    | _ => rfl

end Caches

/-! ## What is sent again -/

/-- What messages set an item to, the last one counting -/
def lastSent (msgs : List (Request ρ)) (item : ConfigItem) : Option (ConfigValue ρ) :=
  latest (fun msg ↦ msg.value item) msgs

/-- What the caches have for an item -/
def Api.cachedValue (api : Api ρ) : ConfigItem → Option (ConfigValue ρ)
  | .constellations =>
    if api.mSvConfigInfo.isValid then
      some (.constellations api.mSvConfigInfo.constellationEnablementConfig
        api.mSvConfigInfo.blacklistSvConfig)
    else none
  | .secondaryBand =>
    if api.mSvConfigInfo.secondaryBandConfig.size != 0 then
      some (.secondaryBand api.mSvConfigInfo.secondaryBandConfig)
    else none
  | .tunc =>
    if api.mTuncConfigInfo.isValid then
      some (.tunc api.mTuncConfigInfo.enable api.mTuncConfigInfo.tuncThresholdMs
        api.mTuncConfigInfo.energyBudget)
    else none
  | .clockEstimator =>
    if api.mPaceConfigInfo.isValid then some (.flag api.mPaceConfigInfo.enable) else none
  | .leverArm t =>
    if api.mLeverArmConfigInfo.leverArmValidMask != 0 then api.mLeverArmConfigInfo.value t else none
  | .robustLocation =>
    if api.mRobustLocationConfigInfo.isValid then
      some (.robustLocation api.mRobustLocationConfigInfo.enable
        api.mRobustLocationConfigInfo.enableForE911)
    else none
  | .dre p => if api.mDreConfigInfo.isValid then api.mDreConfigInfo.dreConfig.value p else none
  | .userConsent =>
    if api.mGtpUserConsentConfigInfo.isValid then
      some (.flag api.mGtpUserConsentConfigInfo.userConsent)
    else none
  | .engine e => (api.mEngRunStateConfigMap.find? e).map .runState

theorem lastSent_append (msgs msgs' : List (Request ρ)) (item : ConfigItem) :
    lastSent (msgs ++ msgs') item = (lastSent msgs' item).or (lastSent msgs item) :=
  latest_append _ _ _

theorem lastSent_sendIf (valid : Bool) (configType : LocConfigType) (msg : Request ρ)
    (item : ConfigItem) :
    lastSent ((Api.sendIf valid configType msg).map Prod.snd) item =
      if valid then msg.value item else none := by
  cases valid
  · rfl
  · exact latest_singleton _ _

theorem lastSent_eq_none {msgs : List (Request ρ)} {item : ConfigItem}
    (h : ∀ msg ∈ msgs, msg.value item = none) : lastSent msgs item = none :=
  latest_eq_none_iff.mpr h

theorem lastSent_engines (m : OrderedMap PositioningEngine LocEngineRunState)
    (e : PositioningEngine) :
    lastSent (m.entries.map fun x ↦ (.configEngineRunState x.1 x.2 : Request ρ)) (.engine e) =
      (m.find? e).map .runState := by
  cases hfind : m.find? e with
  | none =>
    refine lastSent_eq_none fun msg hmsg ↦ ?_
    obtain ⟨x, hx, rfl⟩ := mem_map.mp hmsg
    exact if_neg (OrderedMap.find?_eq_none_iff.mp hfind x hx)
  | some state =>
    have hmem := OrderedMap.find?_eq_some_iff.mp hfind
    refine latest_eq_some (mem_map_of_mem hmem) (if_pos rfl) fun msg hmsg z hz ↦ ?_
    obtain ⟨x, hx, rfl⟩ := mem_map.mp hmsg
    obtain ⟨rfl, rfl⟩ : x.1 = e ∧ ConfigValue.runState x.2 = z := by
      simpa [Request.value] using hz
    rw [OrderedMap.eq_of_mem_entries hx hmem]

/-- Of each item the messages say what the caches have. -/
theorem lastSent_cached (api : Api ρ) (item : ConfigItem) :
    lastSent (api.cached.map Prod.snd) item = api.cachedValue item := by
  have hengines : (api.mEngRunStateConfigMap.entries.map fun
        (x : PositioningEngine × LocEngineRunState) ↦
          (LocConfigType.engineRunState, (.configEngineRunState x.1 x.2 : Request ρ))).map Prod.snd =
      api.mEngRunStateConfigMap.entries.map fun x ↦ .configEngineRunState x.1 x.2 := by
    rw [map_map]
    rfl
  rw [Api.cached, map_flatten]
  simp only [map_cons, map_nil, flatten_cons, flatten_nil, List.append_nil,
    lastSent_append, lastSent_sendIf, hengines]
  cases item with
  | engine e =>
    rw [lastSent_engines]
    simp [Request.value, Api.cachedValue]
  | _ =>
    have hnone : ∀ item, (∀ e, item ≠ .engine e) →
        lastSent (api.mEngRunStateConfigMap.entries.map fun x ↦
          (.configEngineRunState x.1 x.2 : Request ρ)) item = none := by
      intro item hitem
      refine lastSent_eq_none fun msg hmsg ↦ ?_
      obtain ⟨x, -, rfl⟩ := mem_map.mp hmsg
      cases item with
      | engine e => exact absurd rfl (hitem e)
      | _ => rfl
    rw [hnone _ (by simp)]
    simp [Request.value, Api.cachedValue]

/-! ## The law -/

/-- The lever arm message sets the type. -/
def LeverArmConfigInfo.Sets (info : LeverArmConfigInfo ρ) (t : LeverArmType) : Prop :=
  info.leverArmValidMask &&& t.bit ≠ 0

/-- The dead reckoning message sets the parameter. -/
def DeadReckoningEngineConfig.Sets (config : DeadReckoningEngineConfig ρ) (p : DreParam) : Prop :=
  config.validMask &&& p.bit ≠ 0

variable {info : LeverArmConfigInfo ρ}

theorem LeverArmConfigInfo.value_ne_none {t : LeverArmType} :
    info.value t ≠ none ↔ info.Sets t := by
  simp [value, Sets]

theorem DeadReckoningEngineConfig.value_ne_none {config : DeadReckoningEngineConfig ρ}
    {p : DreParam} : config.value p ≠ none ↔ config.Sets p := by
  simp [value, Sets]

/-- Without a type nothing is set. -/
theorem LeverArmConfigInfo.value_of_mask_eq_zero
    (h : info.leverArmValidMask = 0) (t : LeverArmType) : info.value t = none := by
  rw [value, h]
  cases t <;> rfl

/-- The calls of a history whose configuration can be had back from the caches -/
structure Replayable (hist : List (Item (Event ρ) (Output ρ))) : Prop where
  /-- The last lever arm call sets every type that was set. -/
  leverArm : ∀ t info rc, .event (.call (.configLeverArm info) rc) ∈ hist → info.Sets t →
    ∃ last, lastCall Request.leverArm? hist = some last ∧ last.Sets t
  /-- The last dead reckoning call sets every parameter that was set. -/
  dre : ∀ p config rc, .event (.call (.configDeadReckoningEngineParams config) rc) ∈ hist →
    config.Sets p → ∃ last, lastCall Request.dre? hist = some last ∧ last.dreConfig.Sets p
  /-- The secondary band is configured only together with the constellations. -/
  constellations : ∀ band rc, .event (.call (.configConstellationSecondaryBand band) rc) ∈ hist →
    ∃ enablement blacklist rc',
      .event (.call (.configConstellations enablement blacklist) rc') ∈ hist
  /-- The last secondary band has a size. -/
  secondaryBand : ∀ band, lastCall Request.secondaryBand? hist = some band → band.size ≠ 0

section Items

variable [Zero ρ] {guard : System ρ → Event ρ → Prop} {cbs : LocIntegrationCbs}
  {hist : List (Item (Event ρ) (Output ρ))} {s : System ρ}

/-- A cache with a flag, of calls that set one item -/
theorem cachedValue_of_valid {β : Type} {cache : Api ρ → β} {proj : Request ρ → Option β}
    {item : ConfigItem} (hcache : Caches cache proj) (valid : β → Bool) (val : β → ConfigValue ρ)
    (hinit : valid (cache (.init cbs)) = false) (hproj : ∀ req y, proj req = some y → valid y = true)
    (hitem : ∀ req : Request ρ, req.value item = (proj req).map val)
    (hrun : Run System.step guard (System.init cbs) hist s) :
    (if valid (cache s.api) then some (val (cache s.api)) else none) =
      lastCall (fun req ↦ req.value item) hist := by
  simp only [hitem]
  rw [lastCall_map, hcache.of_run hrun]
  cases hlast : lastCall proj hist with
  | none => simp [hinit]
  | some y => simp [of_lastCall (P := fun y ↦ valid y = true) hproj hlast]

section

variable (hrun : Run System.step guard (System.init cbs) hist s)
include hrun

theorem cachedValue_leverArm (t : LeverArmType) :
    s.api.cachedValue (.leverArm t) = lastCall (fun req ↦ req.value (.leverArm t)) hist ↔
      ∀ info rc, .event (.call (.configLeverArm info) rc) ∈ hist → info.Sets t →
        ∃ last, lastCall Request.leverArm? hist = some last ∧ last.Sets t := by
  have hcached : s.api.cachedValue (.leverArm t) =
      (lastCall Request.leverArm? hist).bind fun info ↦ info.value t := by
    have hmask : ∀ info : LeverArmConfigInfo ρ,
        (if info.leverArmValidMask != 0 then info.value t else none) = info.value t := by
      intro info
      by_cases h : info.leverArmValidMask = 0
      · simp [h, info.value_of_mask_eq_zero h]
      · simp [h]
    refine (hmask _).trans ?_
    rw [caches_leverArm.of_run hrun]
    cases lastCall Request.leverArm? hist with
    | none => exact LeverArmConfigInfo.value_of_mask_eq_zero rfl t
    | some info => rfl
  have hitem : ∀ req : Request ρ,
      req.value (.leverArm t) = req.leverArm?.bind fun info ↦ info.value t := by
    intro req
    cases req with
    | configLeverArm info =>
      by_cases h : info.leverArmValidMask = 0
      · simp [Request.value, Request.leverArm?, h, info.value_of_mask_eq_zero h]
      · simp [Request.value, Request.leverArm?, h]
    | _ => rfl
  rw [hcached]
  simp only [← LeverArmConfigInfo.value_ne_none]
  constructor
  · intro h info rc hmem hsets
    simp only [hitem] at h
    exact lastCall_bind_eq_iff.mp h _ rc hmem (hitem (.configLeverArm info) ▸ hsets)
  · intro h
    simp only [hitem]
    refine lastCall_bind_eq_iff.mpr fun req rc hmem hne ↦ ?_
    rw [← hitem] at hne
    cases req with
    | configLeverArm info => exact h info rc hmem hne
    | _ => exact absurd rfl hne

theorem cachedValue_dre (p : DreParam) :
    s.api.cachedValue (.dre p) = lastCall (fun req ↦ req.value (.dre p)) hist ↔
      ∀ config rc, .event (.call (.configDeadReckoningEngineParams config) rc) ∈ hist →
        config.Sets p → ∃ last, lastCall Request.dre? hist = some last ∧ last.dreConfig.Sets p := by
  have hcached : s.api.cachedValue (.dre p) =
      (lastCall Request.dre? hist).bind fun info ↦ info.dreConfig.value p := by
    change (if s.api.mDreConfigInfo.isValid then s.api.mDreConfigInfo.dreConfig.value p
      else none) = _
    obtain ⟨-, -, -, -, hdre, -⟩ := caches_plain (ρ := ρ)
    rw [hdre.of_run hrun]
    cases hlast : lastCall Request.dre? hist with
    | none => rfl
    | some info =>
      have hvalid : info.isValid = true := by
        refine of_lastCall (P := fun info ↦ info.isValid = true) (fun req y hy ↦ ?_) hlast
        cases req with
        | configDeadReckoningEngineParams config => rw [← some_inj.mp hy]
        | _ => cases hy
      simp [hvalid]
  have hitem : ∀ req : Request ρ,
      req.value (.dre p) = req.dre?.bind fun info ↦ info.dreConfig.value p := by
    intro req
    cases req <;> rfl
  rw [hcached]
  simp only [hitem, ← DeadReckoningEngineConfig.value_ne_none]
  rw [lastCall_bind_eq_iff]
  constructor
  · exact fun h config rc hmem hsets ↦ h _ rc hmem hsets
  · intro h req rc hmem hne
    cases req with
    | configDeadReckoningEngineParams config => exact h config rc hmem hne
    | _ => exact absurd rfl hne

theorem cachedValue_engine (e : PositioningEngine) :
    s.api.cachedValue (.engine e) = lastCall (fun req ↦ req.value (.engine e)) hist := by
  have hitem : ∀ req : Request ρ,
      req.value (.engine e) = (req.runState? e).bind fun state ↦ state.map ConfigValue.runState := by
    intro req
    cases req with
    | configEngineRunState engType state =>
      by_cases he : engType = e <;> simp [Request.value, Request.runState?, he]
    | _ => rfl
  have hcached : s.api.cachedValue (.engine e) =
      (lastCall (Request.runState? e) hist).bind fun state ↦ state.map ConfigValue.runState := by
    change (s.api.mEngRunStateConfigMap.find? e).map ConfigValue.runState = _
    rw [(caches_runState e).of_run hrun]
    cases lastCall (Request.runState? e) hist <;> rfl
  rw [hcached]
  simp only [hitem]
  refine lastCall_bind_eq_iff.mpr fun req rc hmem hne ↦ ?_
  cases hlast : lastCall (Request.runState? e) hist with
  | none =>
    rw [lastCall_eq_none_iff.mp hlast req rc hmem] at hne
    exact absurd rfl hne
  | some last =>
    have hstate : last ≠ none := by
      refine of_lastCall (P := (· ≠ none)) (fun req y hy ↦ ?_) hlast
      cases req with
      | configEngineRunState engType state =>
        by_cases he : engType = e
        · rw [Request.runState?, if_pos he] at hy
          rw [← some_inj.mp hy]
          simp
        · rw [Request.runState?, if_neg he] at hy
          cases hy
      | _ => cases hy
    exact ⟨last, rfl, by simpa using hstate⟩

theorem cachedValue_secondaryBand :
    s.api.cachedValue .secondaryBand = lastCall (fun req ↦ req.value .secondaryBand) hist ↔
      ∀ band, lastCall Request.secondaryBand? hist = some band → band.size ≠ 0 := by
  have hitem : ∀ req : Request ρ,
      req.value .secondaryBand = req.secondaryBand?.map .secondaryBand := by
    intro req
    cases req <;> rfl
  have hcached : s.api.cachedValue .secondaryBand =
      if s.api.mSvConfigInfo.secondaryBandConfig.size != 0 then
        some (.secondaryBand s.api.mSvConfigInfo.secondaryBandConfig) else none := rfl
  obtain ⟨-, -, -, -, -, -, hband, -⟩ := caches_plain (ρ := ρ)
  simp only [hitem]
  rw [lastCall_map, hcached, hband.of_run hrun]
  cases lastCall Request.secondaryBand? hist with
  | none => exact iff_of_true rfl fun band h ↦ nomatch h
  | some band => by_cases h : band.size = 0 <;> simp [h]

theorem cachedValue_constellations :
    s.api.cachedValue .constellations = lastCall (fun req ↦ req.value .constellations) hist ↔
      ∀ band rc, .event (.call (.configConstellationSecondaryBand band) rc) ∈ hist →
        ∃ enablement blacklist rc',
          .event (.call (.configConstellations enablement blacklist) rc') ∈ hist := by
  have hitem : ∀ req : Request ρ,
      req.value .constellations = req.constellations?.map fun c ↦ .constellations c.1 c.2 := by
    intro req
    cases req <;> rfl
  obtain ⟨-, -, -, -, -, hconstellations, -, hsvConfig⟩ := caches_plain (ρ := ρ)
  have hpair := hconstellations.of_run hrun
  have hvalid := hsvConfig.of_run hrun
  have hcached : s.api.cachedValue .constellations =
      if s.api.mSvConfigInfo.isValid then
        some (.constellations s.api.mSvConfigInfo.constellationEnablementConfig
          s.api.mSvConfigInfo.blacklistSvConfig) else none := rfl
  have htrue : ∀ b, lastCall Request.svConfig? hist = some b → b = true := by
    intro b hb
    refine of_lastCall (P := (· = true)) (fun req y hy ↦ ?_) hb
    cases req <;> first | exact (some_inj.mp hy).symm | cases hy
  simp only [hitem]
  rw [lastCall_map, hcached]
  cases hlast : lastCall Request.constellations? hist with
  | some c =>
    -- a call configured the constellations, so they are valid
    rw [hlast] at hpair
    obtain ⟨henablement, hblacklist⟩ := Prod.mk.inj hpair
    have hsv : s.api.mSvConfigInfo.isValid = true := by
      rw [hvalid]
      cases hb : lastCall Request.svConfig? hist with
      | some b => exact htrue b hb
      | none =>
        have hnone : lastCall Request.constellations? hist = none := by
          refine lastCall_eq_none_iff.mpr fun req rc hmem ↦ ?_
          have hreq := lastCall_eq_none_iff.mp hb req rc hmem
          cases req <;> first | rfl | cases hreq
        rw [hlast] at hnone
        cases hnone
    refine iff_of_true ?_ fun band rc hband ↦ ?_
    · rw [if_pos hsv, henablement, hblacklist]
      rfl
    · by_contra hnot
      have hnone : lastCall Request.constellations? hist = none := by
        refine lastCall_eq_none_iff.mpr fun req rc' hmem ↦ ?_
        cases req with
        | configConstellations enablement blacklist =>
          exact absurd ⟨enablement, blacklist, rc', hmem⟩ hnot
        | _ => rfl
      rw [hlast] at hnone
      cases hnone
  | none =>
    have hnot : ∀ enablement blacklist rc',
        .event (.call (.configConstellations enablement blacklist) rc') ∉ hist := by
      intro enablement blacklist rc' hmem
      cases lastCall_eq_none_iff.mp hlast _ rc' hmem
    rw [hvalid]
    cases hb : lastCall Request.svConfig? hist with
    | none =>
      refine iff_of_true rfl fun band rc hband ↦ ?_
      cases lastCall_eq_none_iff.mp hb _ rc hband
    | some b =>
      obtain rfl := htrue b hb
      refine iff_of_false (fun h ↦ by cases h) fun h ↦ ?_
      have hnone : lastCall Request.svConfig? hist = none := by
        refine lastCall_eq_none_iff.mpr fun req rc hmem ↦ ?_
        cases req with
        | configConstellations enablement blacklist => exact absurd hmem (hnot _ _ _)
        | configConstellationSecondaryBand band =>
          obtain ⟨enablement, blacklist, rc', hmem'⟩ := h band rc hmem
          exact absurd hmem' (hnot _ _ _)
        | _ => rfl
      rw [hb] at hnone
      cases hnone

/-- Of calls that are replayable every item is had back. -/
theorem cachedValue_eq (h : Replayable hist) (item : ConfigItem) :
    s.api.cachedValue item = lastCall (fun req ↦ req.value item) hist := by
  obtain ⟨htunc, hpace, hrobustLocation, huserConsent, -⟩ := caches_plain (ρ := ρ)
  cases item with
  | constellations => exact (cachedValue_constellations hrun).mpr h.constellations
  | secondaryBand => exact (cachedValue_secondaryBand hrun).mpr h.secondaryBand
  | tunc =>
    refine cachedValue_of_valid htunc (fun c ↦ c.isValid)
      (fun c ↦ .tunc c.enable c.tuncThresholdMs c.energyBudget) rfl ?_ ?_ hrun
    · intro req y hy
      cases req <;> first | (rw [← some_inj.mp hy]) | cases hy
    · intro req
      cases req <;> rfl
  | clockEstimator =>
    refine cachedValue_of_valid hpace (fun c ↦ c.isValid) (fun c ↦ .flag c.enable) rfl
      ?_ ?_ hrun
    · intro req y hy
      cases req <;> first | (rw [← some_inj.mp hy]) | cases hy
    · intro req
      cases req <;> rfl
  | leverArm t => exact (cachedValue_leverArm hrun t).mpr (h.leverArm t)
  | robustLocation =>
    refine cachedValue_of_valid hrobustLocation (fun c ↦ c.isValid)
      (fun c ↦ .robustLocation c.enable c.enableForE911) rfl ?_ ?_ hrun
    · intro req y hy
      cases req <;> first | (rw [← some_inj.mp hy]) | cases hy
    · intro req
      cases req <;> rfl
  | dre p => exact (cachedValue_dre hrun p).mpr (h.dre p)
  | userConsent =>
    refine cachedValue_of_valid huserConsent (fun c ↦ c.isValid)
      (fun c ↦ .flag c.userConsent) rfl ?_ ?_ hrun
    · intro req y hy
      cases req <;> first | (rw [← some_inj.mp hy]) | cases hy
    · intro req
      cases req <;> rfl
  | engine e => exact cachedValue_engine hrun e

end

/-- After every run, what is sent again sets every item to what the last call that set it asked for,
and no other item, exactly when the calls are replayable. -/
theorem restored_iff (hrun : Run System.step guard (System.init cbs) hist s) :
    (∀ item, lastSent (sentOf (s.api.processHalReadyMsg true fun _ ↦ true).2) item =
        lastCall (fun req ↦ req.value item) hist) ↔ Replayable hist := by
  have hsent : sentOf (s.api.processHalReadyMsg true fun _ ↦ true).2 =
      s.api.cached.map Prod.snd := by
    rw [Api.sentOf_processHalReadyMsg, Bool.or_true, if_pos rfl, filter_true]
  simp only [hsent, lastSent_cached]
  constructor
  · intro h
    exact {
      leverArm := fun t ↦ (cachedValue_leverArm hrun t).mp (h _)
      dre := fun p ↦ (cachedValue_dre hrun p).mp (h _)
      constellations := (cachedValue_constellations hrun).mp (h _)
      secondaryBand := (cachedValue_secondaryBand hrun).mp (h _) }
  · exact fun h item ↦ cachedValue_eq hrun h item

end Items

/-- A lever arm configuration of some types, all arms of no length -/
def leverArmOf (mask : UInt32) : LeverArmConfigInfo Unit :=
  ⟨mask, ⟨(), (), ()⟩, ⟨(), (), ()⟩, ⟨(), (), ()⟩⟩

theorem restored_iff_two_lever_arms :
    ∃ (hist : List (Item (Event Unit) (Output Unit))) (s : System Unit),
      Run System.step (fun _ _ ↦ True) (System.init allCbs) hist s ∧
        s.api.mLeverArmConfigInfo.leverArmValidMask = 2 ∧
        ((∀ item, lastSent (sentOf (s.api.processHalReadyMsg true fun _ ↦ true).2) item =
          lastCall (fun req ↦ req.value item) hist) ↔ Replayable hist) := by
  obtain ⟨hist, s, hrun, hmask⟩ := Run.exists_of_runEvents (σ := System Unit) System.step
    (fun _ _ ↦ True) (System.init allCbs)
    [.listenerReady true, .call (.configLeverArm (leverArmOf 1)) true,
      .call (.configLeverArm (leverArmOf 2)) true]
    (fun _ s ↦ s.api.mLeverArmConfigInfo.leverArmValidMask == 2) (by decide +kernel)
  exact ⟨hist, s, hrun, beq_iff_eq.mp hmask, restored_iff hrun⟩

/-- The second lever arm call takes the place of the first in the cache, and its type is lost. -/
theorem not_restored :
    ¬∀ (hist : List (Item (Event Unit) (Output Unit))) (s : System Unit),
      Run System.step (fun _ _ ↦ True) (System.init allCbs) hist s →
        ∀ item, lastSent (sentOf (s.api.processHalReadyMsg true fun _ ↦ true).2) item =
          lastCall (fun req ↦ req.value item) hist := by
  intro h
  obtain ⟨hist, s, hrun, hlost⟩ := Run.exists_of_runEvents (σ := System Unit) System.step
    (fun _ _ ↦ True) (System.init allCbs)
    [.listenerReady true, .call (.configLeverArm (leverArmOf 1)) true,
      .call (.configLeverArm (leverArmOf 2)) true]
    (fun hist s ↦
      (lastSent (sentOf (s.api.processHalReadyMsg true fun _ ↦ true).2)
        (.leverArm .gnssToVRP)).isNone &&
      (lastCall (fun req ↦ req.value (.leverArm .gnssToVRP)) hist).isSome) (by decide +kernel)
  rw [Bool.and_eq_true, h hist s hrun (.leverArm .gnssToVRP)] at hlost
  obtain ⟨hnone, hsome⟩ := hlost
  rw [Option.isNone_iff_eq_none.mp hnone] at hsome
  cases hsome

end MataDevice.Integration
