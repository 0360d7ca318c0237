import MataDevice.Integration.Api

/-!
# What the functions of the client do

Each function of the API sends its message, when there is one, and keeps what it was asked for; the
order of the two does not matter. Sending touches the counts only. So a function is described by
what it counts and reports (`cnt`, `callbacksOf`), by what it sends, and by what it keeps.
-/

namespace MataDevice.Integration

open List
open PbMsgConv (LocationError)
open OrderedMap (find?_insert find?_erase)

variable {ρ : Type}

/-- The answers that are passed to the callback for one type. -/
def callbacksOf (T : LocConfigType) (outs : List (Output ρ)) : List LocIntegrationResponse :=
  outs.filterMap fun
    | .configCb configType response => if configType = T then some response else none
    | .sent _ => none

/-- The messages that are sent. -/
def sentOf (outs : List (Output ρ)) : List (Request ρ) :=
  outs.filterMap fun
    | .sent msg => some msg
    | .configCb .. => none

theorem callbacksOf_append (T : LocConfigType) (outs outs' : List (Output ρ)) :
    callbacksOf T (outs ++ outs') = callbacksOf T outs ++ callbacksOf T outs' :=
  filterMap_append

theorem sentOf_append (outs outs' : List (Output ρ)) :
    sentOf (outs ++ outs') = sentOf outs ++ sentOf outs' :=
  filterMap_append

theorem callbacksOf_singleton (T configType : LocConfigType) (response : LocIntegrationResponse) :
    callbacksOf T [(.configCb configType response : Output ρ)] =
      if configType = T then [response] else [] := by
  by_cases hT : configType = T <;> simp [callbacksOf, hT]

namespace Api

variable {api : Api ρ} {T : LocConfigType}

/-- How many requests of a type wait for an answer. -/
def cnt (api : Api ρ) (T : LocConfigType) : ℕ := (api.mConfigReqCntMap.find? T).getD 0

/-- Nothing but the counts is changed. -/
def OnlyCounts (api api' : Api ρ) : Prop :=
  ∃ map, api' = { api with mConfigReqCntMap := map }

theorem OnlyCounts.refl : OnlyCounts api api := ⟨_, rfl⟩

theorem OnlyCounts.trans {api' api'' : Api ρ} (h : OnlyCounts api api')
    (h' : OnlyCounts api' api'') : OnlyCounts api api'' := by
  obtain ⟨map, rfl⟩ := h
  obtain ⟨map', rfl⟩ := h'
  exact ⟨map', rfl⟩

/-! ## Counting -/

theorem cnt_addConfigReq (configType : LocConfigType) :
    (addConfigReq configType api).cnt T = api.cnt T + if T = configType then 1 else 0 := by
  unfold addConfigReq cnt
  by_cases hT : T = configType
  · subst hT
    cases h : api.mConfigReqCntMap.find? T <;> simp [find?_insert]
  · cases h : api.mConfigReqCntMap.find? configType <;>
      simp [find?_insert, find?_erase, hT]

/-- An answer is passed on when there is a request that waits for it. -/
theorem outs_processConfigRespCb (hcb : api.mIntegrationCbs.configCb = true) (msgId : ELocMsgID)
    (err : LocationError) :
    (processConfigRespCb msgId err api).2 =
      if 0 < api.cnt (getLocConfigTypeFromMsgId msgId) then
        [.configCb (getLocConfigTypeFromMsgId msgId) (getLocIntegrationResponse err)]
      else [] := by
  unfold processConfigRespCb cnt
  cases h : api.mConfigReqCntMap.find? (getLocConfigTypeFromMsgId msgId) <;> simp [hcb, h]

theorem cnt_processConfigRespCb (hcb : api.mIntegrationCbs.configCb = true) (msgId : ELocMsgID)
    (err : LocationError) :
    (processConfigRespCb msgId err api).1.cnt T =
      api.cnt T - if T = getLocConfigTypeFromMsgId msgId then 1 else 0 := by
  unfold processConfigRespCb cnt
  by_cases hT : T = getLocConfigTypeFromMsgId msgId
  · subst hT
    cases h : api.mConfigReqCntMap.find? (getLocConfigTypeFromMsgId msgId) with
    | none => simp [hcb, h]
    | some reqCnt =>
      by_cases hcnt : reqCnt - 1 > 0
      · simp [hcb, h, hcnt, find?_insert]
      · simp [hcb, h, hcnt, find?_erase]
        omega
  · cases h : api.mConfigReqCntMap.find? (getLocConfigTypeFromMsgId msgId) with
    | none => simp [hcb, h, hT]
    | some reqCnt =>
      by_cases hcnt : reqCnt - 1 > 0
      · simp [hcb, h, hcnt, hT, find?_insert, find?_erase]
      · simp [hcb, h, hcnt, hT, find?_erase]

theorem onlyCounts_processConfigRespCb (api : Api ρ) (msgId : ELocMsgID) (err : LocationError) :
    OnlyCounts api (processConfigRespCb msgId err api).1 := by
  unfold processConfigRespCb
  dsimp only
  split
  · split <;> exact ⟨_, rfl⟩
  · exact ⟨_, rfl⟩

/-- All requests that wait have failed. -/
theorem callbacksOf_flushConfigReqs :
    callbacksOf T (flushConfigReqs api).2 = List.replicate (api.cnt T) .failure := by
  have hentries : ∀ entries : List (LocConfigType × ℕ),
      callbacksOf T (entries.flatMap fun e ↦
        List.replicate e.2 (Output.configCb (ρ := ρ) e.1 .failure)) =
      (entries.filter fun e ↦ e.1 = T).flatMap fun e ↦ List.replicate e.2 .failure := by
    intro entries
    induction entries with
    | nil => rfl
    | cons e entries ih =>
      rw [flatMap_cons, callbacksOf_append, ih]
      by_cases hT : e.1 = T <;> simp [callbacksOf, hT]
  refine (hentries api.mConfigReqCntMap.entries).trans ?_
  rw [OrderedMap.filter_fst_entries _ fun e ↦ decide_eq_true_iff, cnt]
  cases api.mConfigReqCntMap.find? T <;> simp

/-! ## Sending -/

section Send

variable {configType : LocConfigType} {msg : Request ρ} {rc : Bool}

theorem onlyCounts_addConfigReq : OnlyCounts api (addConfigReq configType api) := by
  unfold addConfigReq
  split <;> exact ⟨_, rfl⟩

theorem onlyCounts_sendConfigMsgToHalDaemon (configType : LocConfigType) (msg : Request ρ)
    (rc invokeResponseCb : Bool) (api : Api ρ) :
    OnlyCounts api (sendConfigMsgToHalDaemon configType msg rc invokeResponseCb api).1 := by
  unfold sendConfigMsgToHalDaemon
  dsimp only
  split
  · split
    · exact onlyCounts_addConfigReq
    · exact .refl
  · exact .refl

/-- A message that is sent is counted, the failure of another one is reported at once. -/
theorem outs_sendConfigMsgToHalDaemon (hcb : api.mIntegrationCbs.configCb = true) :
    (sendConfigMsgToHalDaemon configType msg rc true api).2 =
      if api.mHalRegistered && rc then [.sent msg] else [.configCb configType .failure] := by
  unfold sendConfigMsgToHalDaemon
  cases api.mHalRegistered && rc <;> simp [hcb]

theorem cnt_sendConfigMsgToHalDaemon (hcb : api.mIntegrationCbs.configCb = true) :
    (sendConfigMsgToHalDaemon configType msg rc true api).1.cnt T =
      api.cnt T + if (api.mHalRegistered && rc) ∧ T = configType then 1 else 0 := by
  unfold sendConfigMsgToHalDaemon
  cases api.mHalRegistered && rc <;> simp [hcb, cnt_addConfigReq]

theorem sentOf_sendConfigMsgToHalDaemon {invokeResponseCb : Bool} :
    sentOf (sendConfigMsgToHalDaemon configType msg rc invokeResponseCb api).2 =
      if api.mHalRegistered && rc then [msg] else [] := by
  unfold sendConfigMsgToHalDaemon
  cases api.mHalRegistered && rc
  · cases invokeResponseCb && api.mIntegrationCbs.configCb <;> rfl
  · rfl

end Send

section Call

/-- Whether a function makes a request of a call. -/
def accepts (api : Api ρ) : Request ρ → Bool
  | .configLeverArm configInfo => configInfo.leverArmValidMask != 0
  | .getRobustLocationConfig => api.mIntegrationCbs.getRobustLocationConfigCb
  | .getMinGpsWeek => api.mIntegrationCbs.getMinGpsWeekCb
  | .getMinSvElevation => api.mIntegrationCbs.getMinSvElevationCb
  | .getConstellationSecondaryBandConfig =>
    api.mIntegrationCbs.getConstellationSecondaryBandConfigCb
  | _ => true

/-- What is kept of a request. -/
def remember : Request ρ → Api ρ → Api ρ
  | .configConstellations enablement blacklist, api =>
    { api with
      mSvConfigInfo := { api.mSvConfigInfo with
        isValid := true
        constellationEnablementConfig := enablement
        blacklistSvConfig := blacklist } }
  | .configConstellationSecondaryBand secondaryBand, api =>
    { api with
      mSvConfigInfo := { api.mSvConfigInfo with
        isValid := true
        secondaryBandConfig := secondaryBand } }
  | .configConstrainedTimeUncertainty enable tuncThreshold energyBudget, api =>
    { api with mTuncConfigInfo := ⟨true, enable, tuncThreshold, energyBudget⟩ }
  | .configPositionAssistedClockEstimator enable, api =>
    { api with mPaceConfigInfo := ⟨true, enable⟩ }
  | .configLeverArm configInfo, api => { api with mLeverArmConfigInfo := configInfo }
  | .configRobustLocation enable enableForE911, api =>
    { api with mRobustLocationConfigInfo := ⟨true, enable, enableForE911⟩ }
  | .configDeadReckoningEngineParams dreConfig, api =>
    { api with mDreConfigInfo := ⟨true, dreConfig⟩ }
  | .configEngineRunState engType engState, api =>
    { api with mEngRunStateConfigMap := api.mEngRunStateConfigMap.insert engType engState }
  | .setUserConsentForTerrestrialPositioning userConsent, api =>
    { api with mGtpUserConsentConfigInfo := ⟨true, userConsent⟩ }
  | _, api => api

/-- What is kept has no part in sending. -/
theorem sendConfigMsgToHalDaemon_remember (req : Request ρ) (configType : LocConfigType)
    (msg : Request ρ) (rc invokeResponseCb : Bool) (api : Api ρ) :
    sendConfigMsgToHalDaemon configType msg rc invokeResponseCb (remember req api) =
      (remember req (sendConfigMsgToHalDaemon configType msg rc invokeResponseCb api).1,
        (sendConfigMsgToHalDaemon configType msg rc invokeResponseCb api).2) := by
  cases req <;> dsimp only [remember, sendConfigMsgToHalDaemon, addConfigReq] <;>
    cases api.mHalRegistered && rc <;>
    cases invokeResponseCb && api.mIntegrationCbs.configCb <;>
    cases api.mConfigReqCntMap.find? configType <;> rfl

/-- A call that is accepted sends the message and keeps what it was asked for. -/
theorem call_eq (req : Request ρ) (rc : Bool) (api : Api ρ) :
    api.call req rc =
      if api.accepts req then
        (remember req (sendConfigMsgToHalDaemon req.type req rc true api).1,
          (sendConfigMsgToHalDaemon req.type req rc true api).2)
      else (api, []) := by
  cases req with
  | configDeadReckoningEngineParams dreConfig =>
    exact sendConfigMsgToHalDaemon_remember (.configDeadReckoningEngineParams dreConfig) _ _ _ _ _
  | configEngineRunState engType engState =>
    exact sendConfigMsgToHalDaemon_remember (.configEngineRunState engType engState) _ _ _ _ _
  | setUserConsentForTerrestrialPositioning userConsent =>
    exact sendConfigMsgToHalDaemon_remember
      (.setUserConsentForTerrestrialPositioning userConsent) _ _ _ _ _
  | _ => rfl

variable {req : Request ρ} {rc : Bool}

theorem cnt_remember : (remember req api).cnt T = api.cnt T := by
  cases req <;> rfl

theorem remember_frame : (remember req api).mHalRegistered = api.mHalRegistered ∧
    (remember req api).mIntegrationCbs = api.mIntegrationCbs := by
  cases req <;> exact ⟨rfl, rfl⟩

theorem call_frame : (api.call req rc).1.mHalRegistered = api.mHalRegistered ∧
    (api.call req rc).1.mIntegrationCbs = api.mIntegrationCbs := by
  rw [call_eq]
  split
  · obtain ⟨map, hmap⟩ := onlyCounts_sendConfigMsgToHalDaemon req.type req rc true api
    rw [hmap]
    exact remember_frame
  · exact ⟨rfl, rfl⟩

theorem outs_call (hcb : api.mIntegrationCbs.configCb = true) :
    (api.call req rc).2 =
      if api.accepts req then
        if api.mHalRegistered && rc then [.sent req] else [.configCb req.type .failure]
      else [] := by
  rw [call_eq]
  split
  · exact outs_sendConfigMsgToHalDaemon hcb
  · rfl

theorem sentOf_call (req : Request ρ) (rc : Bool) (hcb : api.mIntegrationCbs.configCb = true) :
    sentOf (api.call req rc).2 =
      if api.accepts req && (api.mHalRegistered && rc) then [req] else [] := by
  rw [outs_call hcb]
  cases api.accepts req <;> cases api.mHalRegistered && rc <;> rfl

theorem callbacksOf_call (hcb : api.mIntegrationCbs.configCb = true) :
    callbacksOf T (api.call req rc).2 =
      if api.accepts req && !(api.mHalRegistered && rc) && decide (req.type = T) then [.failure]
      else [] := by
  rw [outs_call hcb]
  cases api.accepts req <;> cases api.mHalRegistered && rc <;> by_cases hT : req.type = T <;>
    simp [callbacksOf, hT]

theorem cnt_call (hcb : api.mIntegrationCbs.configCb = true) :
    (api.call req rc).1.cnt T =
      api.cnt T + if api.accepts req ∧ (api.mHalRegistered && rc) ∧ T = req.type then 1 else 0 := by
  rw [call_eq]
  by_cases hacc : api.accepts req
  · rw [if_pos hacc, cnt_remember, cnt_sendConfigMsgToHalDaemon hcb]
    simp [hacc]
  · simp [hacc]

end Call

/-! ## Sending again -/

section SendAll

variable (sends : Request ρ → Bool)

theorem onlyCounts_sendAll (msgs : List (LocConfigType × Request ρ)) (api : Api ρ) :
    OnlyCounts api (sendAll sends msgs api).1 := by
  induction msgs generalizing api with
  | nil => exact .refl
  | cons m msgs ih => exact (onlyCounts_sendConfigMsgToHalDaemon _ _ _ _ _).trans (ih _)

/-- Each message is sent and counted, or reported as failed. -/
theorem balance_sendAll (msgs : List (LocConfigType × Request ρ)) {api : Api ρ}
    (hcb : api.mIntegrationCbs.configCb = true) :
    (callbacksOf T (sendAll sends msgs api).2).length + (sendAll sends msgs api).1.cnt T =
      api.cnt T + msgs.countP fun m ↦ m.1 = T := by
  induction msgs generalizing api with
  | nil => simp [sendAll, callbacksOf]
  | cons m msgs ih =>
    obtain ⟨map, hmap⟩ := onlyCounts_sendConfigMsgToHalDaemon m.1 m.2 (sends m.2) true api
    have hcb' : (sendConfigMsgToHalDaemon m.1 m.2 (sends m.2) true api).1.mIntegrationCbs.configCb =
        true := by
      rw [hmap]
      exact hcb
    have hrest := ih hcb'
    rw [cnt_sendConfigMsgToHalDaemon hcb] at hrest
    rw [sendAll, callbacksOf_append, length_append, Nat.add_assoc, hrest,
      outs_sendConfigMsgToHalDaemon hcb, countP_cons]
    by_cases hT : m.1 = T
    · cases api.mHalRegistered && sends m.2 <;> simp [callbacksOf, hT] <;> omega
    · cases api.mHalRegistered && sends m.2 <;> simp [callbacksOf, hT, Ne.symm hT]

/-- The messages of the list that can be sent are, once the client is registered. -/
theorem sentOf_sendAll (msgs : List (LocConfigType × Request ρ)) (api : Api ρ) :
    sentOf (sendAll sends msgs api).2 =
      if api.mHalRegistered then (msgs.map Prod.snd).filter sends else [] := by
  induction msgs generalizing api with
  | nil =>
    cases api.mHalRegistered <;> rfl
  | cons m msgs ih =>
    obtain ⟨map, hmap⟩ := onlyCounts_sendConfigMsgToHalDaemon m.1 m.2 (sends m.2) true api
    rw [sendAll, sentOf_append, ih, sentOf_sendConfigMsgToHalDaemon, hmap]
    cases hreg : api.mHalRegistered <;> cases hsend : sends m.2 <;> simp [hsend]

variable {m : LocConfigType × Request ρ}

theorem mem_sendIf {valid : Bool} {configType : LocConfigType} {msg : Request ρ} :
    m ∈ sendIf valid configType msg ↔ valid = true ∧ m = (configType, msg) := by
  cases valid <;> simp [sendIf]

/-- The type that a cached message is counted under is the one of its answer. -/
theorem type_of_mem_cached (h : m ∈ cached api) :
    m.2.type = m.1 := by
  simp only [cached, mem_flatten, mem_cons, not_mem_nil, or_false] at h
  obtain ⟨l, hl | hl | hl | hl | hl | hl | hl | hl | hl, hm⟩ := h <;> subst hl
  case inr.inr.inr.inr.inr.inr.inr.inr =>
    obtain ⟨e, -, rfl⟩ := mem_map.mp hm
    rfl
  all_goals
    obtain ⟨-, rfl⟩ := mem_sendIf.mp hm
    rfl

/-- The client after it was flushed and registered -/
theorem flushed_frame (rc : Bool) (api : Api ρ) :
    (sendClientRegMsgToHalDaemon rc (flushConfigReqs api).1).mHalRegistered =
        (api.mHalRegistered || rc) ∧
      (sendClientRegMsgToHalDaemon rc (flushConfigReqs api).1).mIntegrationCbs =
        api.mIntegrationCbs ∧
      cached (sendClientRegMsgToHalDaemon rc (flushConfigReqs api).1) = cached api ∧
      (sendClientRegMsgToHalDaemon rc (flushConfigReqs api).1).cnt T = 0 := by
  cases rc
  · exact ⟨(Bool.or_false _).symm, rfl, rfl, rfl⟩
  · exact ⟨(Bool.or_true _).symm, rfl, rfl, rfl⟩

theorem sentOf_flushConfigReqs : sentOf (flushConfigReqs api).2 = [] := by
  rw [flushConfigReqs, sentOf, filterMap_eq_nil_iff]
  intro o ho
  obtain ⟨e, -, he⟩ := mem_flatMap.mp ho
  rw [eq_of_mem_replicate he]

theorem sentOf_processHalReadyMsg (rc : Bool) (api : Api ρ) :
    sentOf (processHalReadyMsg rc sends api).2 =
      if api.mHalRegistered || rc then ((cached api).map Prod.snd).filter sends else [] := by
  obtain ⟨hreg, -, hcached, -⟩ := flushed_frame (T := .constellations) rc api
  rw [processHalReadyMsg, sentOf_append, sentOf_flushConfigReqs, nil_append, sentOf_sendAll,
    hreg, hcached]

theorem mIntegrationCbs_processHalReadyMsg (rc : Bool) (api : Api ρ) :
    (processHalReadyMsg rc sends api).1.mIntegrationCbs = api.mIntegrationCbs := by
  obtain ⟨-, hcbs, -, -⟩ := flushed_frame (T := .constellations) rc api
  obtain ⟨map, hmap⟩ := onlyCounts_sendAll sends
    (cached (sendClientRegMsgToHalDaemon rc (flushConfigReqs api).1))
    (sendClientRegMsgToHalDaemon rc (flushConfigReqs api).1)
  rw [processHalReadyMsg, hmap]
  exact hcbs

/-- The requests that wait have failed, and what is sent again is reported or waits. -/
theorem balance_processHalReadyMsg (rc : Bool) (hcb : api.mIntegrationCbs.configCb = true) :
    ∃ again, callbacksOf T (processHalReadyMsg rc sends api).2 =
        List.replicate (api.cnt T) .failure ++ again ∧
      again.length + (processHalReadyMsg rc sends api).1.cnt T =
        (cached api).countP fun m ↦ m.1 = T := by
  obtain ⟨-, hcbs, hcached, hcnt⟩ := flushed_frame (T := T) rc api
  have hbalance := balance_sendAll (T := T) sends
    (cached (sendClientRegMsgToHalDaemon rc (flushConfigReqs api).1))
    ((congrArg LocIntegrationCbs.configCb hcbs).trans hcb)
  rw [hcnt, Nat.zero_add, hcached] at hbalance
  refine ⟨callbacksOf T (sendAll sends (cached api)
    (sendClientRegMsgToHalDaemon rc (flushConfigReqs api).1)).2, ?_, ?_⟩
  · rw [processHalReadyMsg, callbacksOf_append, callbacksOf_flushConfigReqs, hcached]
  · rw [← hcached] at hbalance ⊢
    exact hbalance

end SendAll

end Api

end MataDevice.Integration
