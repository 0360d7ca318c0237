import MataDevice.Agps.DataConn

/-!
# The parameters of the data connection

A request names the type of connection and the APN it is for, but the machine keeps one type and one
mask for all its subscribers, and every request overwrites them before it is looked at.
Notifications and releases carry what the machine holds at that moment. They carry the parameters of
the request they belong to as long as nobody asks for a different connection while one is wanted;
the mask that every subscriber stores is never read.
-/

namespace MataDevice.Agps

open List

/-! ## What was asked for -/

/-- The parameters of a request for a handle that goes to this machine, as adjusted. -/
def asked (nif : Nif) (connHandle : ℤ) :
    Item ManagerCall Call → Option (AGpsExtType × LocApnTypeMask)
  | .event (.requestATL useEmergencyPdn h agpsType mask) =>
    if h = connHandle ∧ nifOf (adjust useEmergencyPdn agpsType mask).1 = nif then
      some (adjust useEmergencyPdn agpsType mask)
    else none
  | _ => none

/-- The parameters of a request to the framework. -/
def requestedParameters : Item ManagerCall Call → Option (AGpsExtType × LocApnTypeMask)
  | .out (.requestDataConn agpsType mask) => some (agpsType, mask)
  | _ => none

/-- An open-status call carries the parameters of the last request for its handle, and a release
those of the last request to the framework. -/
def Carries (nif : Nif) (pre : List (Item ManagerCall Call)) : Item ManagerCall Call → Prop
  | .out (.openStatus connHandle _ _ _ _ agpsType mask) =>
    latest (asked nif connHandle) pre = some (agpsType, mask)
  | .out (.releaseDataConn agpsType mask) =>
    latest requestedParameters pre = some (agpsType, mask)
  | _ => True

/-! ## Subscribers that own the parameters -/

/-- The connection is requested or there, or someone else is waiting for it to be
requested again. -/
def AgpsStateMachine.WantedBeside (sm : AgpsStateMachine) (connHandle : ℤ) : Prop :=
  sm.state = .pending ∨ sm.state = .acquired ∨
    sm.state = .releasing ∧
      ∃ s ∈ sm.subscriberList, s.isInactive = false ∧ s.connHandle ≠ connHandle

instance (sm : AgpsStateMachine) (connHandle : ℤ) : Decidable (sm.WantedBeside connHandle) :=
  inferInstanceAs (Decidable (_ ∨ _))

/-- Everyone who can still be told that the connection is there asked for what the machine holds. -/
structure Owned (own : ℤ → Option (AGpsExtType × LocApnTypeMask)) (sm : AgpsStateMachine) :
    Prop where
  wanted : sm.state = .pending ∨ sm.state = .acquired →
    ∀ s ∈ sm.subscriberList, own s.connHandle = some (sm.agpsType, sm.apnTypeMask)
  active : sm.state = .releasing → ∀ s ∈ sm.subscriberList, s.isInactive = false →
    own s.connHandle = some (sm.agpsType, sm.apnTypeMask)

namespace Owned

variable {own : ℤ → Option (AGpsExtType × LocApnTypeMask)} {sm sm' : AgpsStateMachine} {h : ℤ}
  {agpsType : AGpsExtType} {mask : LocApnTypeMask}

theorem create (agpsType : AGpsExtType) (mask : LocApnTypeMask) :
    Owned own (.create agpsType mask) where
  wanted := by rintro (hst | hst) <;> cases hst
  active hst := by cases hst

theorem congr (ho : Owned own sm) (hst : sm'.state = sm.state)
    (hl : sm'.subscriberList = sm.subscriberList)
    (hp : sm'.agpsType = sm.agpsType ∧ sm'.apnTypeMask = sm.apnTypeMask) : Owned own sm' where
  wanted := by rw [hst, hl, hp.1, hp.2]; exact ho.wanted
  active := by rw [hst, hl, hp.1, hp.2]; exact ho.active

/-- A request for the parameters that the machine holds, or while nobody wants the connection. -/
theorem request (ho : Owned own sm) (ha : Agrees sm)
    (hg : sm.WantedBeside h → sm.agpsType = agpsType ∧ sm.apnTypeMask = mask) :
    Owned (Function.update own h (some (agpsType, mask))) (sm.request h agpsType mask).1 := by
  obtain ⟨htype, hmask, hstate, hmem⟩ := request_spec sm h agpsType mask
  -- a subscriber with another handle was in the list before, so that the machine was not released
  have hother : ∀ s ∈ sm.subscriberList, (sm.request h agpsType mask).1.state = sm.state := by
    intro s hs
    rw [hstate, if_neg]
    intro hr
    rw [ha.released hr] at hs
    cases hs
  constructor
  · intro hst s hs
    rw [htype, hmask]
    by_cases hh : s.connHandle = h
    · rw [hh, Function.update_self]
    · have hs' := (hmem s hs).resolve_right fun heq ↦ hh (congrArg AgpsSubscriber.connHandle heq)
      rw [hother s hs'] at hst
      have hw : sm.WantedBeside h := hst.imp_right Or.inl
      rw [Function.update_of_ne hh, ho.wanted hst s hs', (hg hw).1, (hg hw).2]
  · intro hst s hs hact
    rw [htype, hmask]
    by_cases hh : s.connHandle = h
    · rw [hh, Function.update_self]
    · have hs' := (hmem s hs).resolve_right fun heq ↦ hh (congrArg AgpsSubscriber.connHandle heq)
      rw [hother s hs'] at hst
      have hw : sm.WantedBeside h := Or.inr (Or.inr ⟨hst, s, hs', hact, hh⟩)
      rw [Function.update_of_ne hh, ho.active hst s hs' hact, (hg hw).1, (hg hw).2]

/-- Subscribers that leave, or are left, while nobody new comes. -/
private theorem of_subset (ho : Owned own sm)
    (hp : sm'.agpsType = sm.agpsType ∧ sm'.apnTypeMask = sm.apnTypeMask)
    (hl : ∀ s' ∈ sm'.subscriberList, ∃ s ∈ sm.subscriberList, s.connHandle = s'.connHandle ∧
      (s'.isInactive = false → s.isInactive = false))
    (hst : sm'.state = sm.state ∨ sm'.state = .released) : Owned own sm' := by
  constructor
  · intro hw s' hs'
    obtain ⟨s, hs, hh, -⟩ := hl s' hs'
    rcases hst with hst | hst
    · rw [hst] at hw
      rw [← hh, hp.1, hp.2]
      exact ho.wanted hw s hs
    · simp [hst] at hw
  · intro hw s' hs' hact
    obtain ⟨s, hs, hh, hact'⟩ := hl s' hs'
    rcases hst with hst | hst
    · rw [hst] at hw
      rw [← hh, hp.1, hp.2]
      exact ho.active hw s hs (hact' hact)
    · simp [hst] at hw

theorem unsubscribe (ho : Owned own sm) (hn : sm.handles.Nodup) :
    Owned own (sm.processAgpsEventUnsubscribe h).1 := by
  have hp := leave_parameters sm h
  have hmem : ∀ s' ∈ (sm.leave h).1.subscriberList, ∃ s ∈ sm.subscriberList,
      s.connHandle = s'.connHandle ∧ (s'.isInactive = false → s.isInactive = false) := by
    intro s' hs'
    rcases mem_leave hn hs' with ⟨-, hs⟩ | ⟨rfl, hin, s, hs, hh⟩
    · exact ⟨s', hs, rfl, id⟩
    · exact ⟨s, hs, hh, fun hact ↦ absurd hin (by rw [hact]; decide)⟩
  have hunwanted : Owned own (AgpsStateMachine.releaseUnwanted (sm.leave h)).1 := by
    rw [AgpsStateMachine.releaseUnwanted]
    split_ifs with hempty hact
    · exact ho.of_subset hp hmem (Or.inr rfl)
    -- the release begins because nobody left is active
    · refine ⟨by simp [AgpsStateMachine.transitionState], fun _ s hs hs' ↦ ?_⟩
      have hany : (sm.leave h).1.anyActiveSubscribers = true :=
        anyActiveSubscribers_iff.mpr ⟨s, hs, hs'⟩
      rw [hany] at hact
      cases hact
    · exact ho.of_subset hp hmem (Or.inl leave_state)
  rw [AgpsStateMachine.processAgpsEventUnsubscribe]
  cases hst : sm.state with
  | released => exact ho
  | pending => exact hunwanted
  | acquired => exact hunwanted
  | releasing =>
    simp only
    split_ifs
    · exact ho.of_subset hp hmem (Or.inr rfl)
    · exact ho.of_subset hp hmem (Or.inl leave_state)

theorem granted (ho : Owned own sm) : Owned own sm.processAgpsEventGranted.1 := by
  rw [AgpsStateMachine.processAgpsEventGranted]
  cases hst : sm.state with
  | pending => exact ⟨fun _ ↦ ho.wanted (Or.inl hst), by simp⟩
  | released => exact ho
  | acquired => exact ho
  | releasing => exact ho

theorem finishRelease (ho : Owned own sm) (hst : sm.state = .releasing) :
    Owned own sm.finishRelease.1 := by
  rcases finishRelease_cases sm with ⟨-, hrel⟩ | ⟨-, hrel⟩
  · rw [hrel]
    refine ⟨fun _ s hs ↦ ?_, by simp⟩
    obtain ⟨hs, hact⟩ := mem_filter.mp hs
    exact ho.active hst s hs (by simpa using hact)
  · rw [hrel]
    exact ⟨by simp, by simp⟩

theorem denied (ho : Owned own sm) : Owned own sm.processAgpsEventDenied.1 := by
  rw [AgpsStateMachine.processAgpsEventDenied]
  cases hst : sm.state with
  | pending =>
    rw [notifyAll_delete]
    exact ⟨by simp, by simp⟩
  | releasing => exact ho.finishRelease hst
  | released => exact ho
  | acquired => exact ho

theorem released (ho : Owned own sm) : Owned own sm.processAgpsEventReleased.1 := by
  rw [AgpsStateMachine.processAgpsEventReleased]
  cases hst : sm.state with
  | acquired =>
    rw [notifyAll_delete]
    exact ⟨by simp, by simp⟩
  | releasing => exact ho.finishRelease hst
  | released => exact ho
  | pending => exact ho

end Owned

/-! ## The parameters of a machine along a step -/

section Steps

variable {m : AgpsManager} {nif : Nif} {sm sm' : AgpsStateMachine} {e : ManagerCall}
  {calls : List Call} {items : List (Item ManagerCall Call)}

theorem parameters_unsubscribe (sm : AgpsStateMachine) (h : ℤ) :
    (sm.processAgpsEventUnsubscribe h).1.agpsType = sm.agpsType ∧
      (sm.processAgpsEventUnsubscribe h).1.apnTypeMask = sm.apnTypeMask := by
  have hp := leave_parameters sm h
  rw [AgpsStateMachine.processAgpsEventUnsubscribe]
  cases sm.state with
  | released => exact ⟨rfl, rfl⟩
  | pending | acquired => rw [AgpsStateMachine.releaseUnwanted]; split_ifs <;> exact hp
  | releasing => simp only; split_ifs <;> exact hp

theorem parameters_granted (sm : AgpsStateMachine) :
    sm.processAgpsEventGranted.1.agpsType = sm.agpsType ∧
      sm.processAgpsEventGranted.1.apnTypeMask = sm.apnTypeMask := by
  rw [AgpsStateMachine.processAgpsEventGranted]
  cases sm.state <;> exact ⟨rfl, rfl⟩

theorem parameters_finishRelease (sm : AgpsStateMachine) :
    sm.finishRelease.1.agpsType = sm.agpsType ∧
      sm.finishRelease.1.apnTypeMask = sm.apnTypeMask := by
  rcases finishRelease_cases sm with ⟨-, hrel⟩ | ⟨-, hrel⟩ <;> rw [hrel] <;> exact ⟨rfl, rfl⟩

theorem parameters_denied (sm : AgpsStateMachine) :
    sm.processAgpsEventDenied.1.agpsType = sm.agpsType ∧
      sm.processAgpsEventDenied.1.apnTypeMask = sm.apnTypeMask := by
  rw [AgpsStateMachine.processAgpsEventDenied]
  cases sm.state <;> first | exact ⟨rfl, rfl⟩ | exact parameters_finishRelease sm

theorem parameters_released (sm : AgpsStateMachine) :
    sm.processAgpsEventReleased.1.agpsType = sm.agpsType ∧
      sm.processAgpsEventReleased.1.apnTypeMask = sm.apnTypeMask := by
  rw [AgpsStateMachine.processAgpsEventReleased]
  cases sm.state <;> first | exact ⟨rfl, rfl⟩ | exact parameters_finishRelease sm

theorem parameters_setAPN (sm : AgpsStateMachine) (apn : Option (List UInt8)) (len : ℕ) :
    (sm.setAPN apn len).agpsType = sm.agpsType ∧
      (sm.setAPN apn len).apnTypeMask = sm.apnTypeMask := by
  cases apn with
  | none => exact ⟨rfl, rfl⟩
  | some name =>
    rw [AgpsStateMachine.setAPN]
    split_ifs <;> exact ⟨rfl, rfl⟩

theorem asked_of_target_ne (he : e.target ≠ some nif) (h : ℤ) : asked nif h (.event e) = none := by
  cases e with
  | requestATL useEmergencyPdn h' agpsType mask =>
    exact if_neg fun hc ↦ he (congrArg some hc.2)
  | _ => rfl

/-- Only a request that goes to the machine changes its parameters, and it always sets them. -/
theorem parameters_of_machineStep (hs : MachineStep m nif sm e sm' calls) :
    (∃ useEmergencyPdn h agpsType mask, e = .requestATL useEmergencyPdn h agpsType mask ∧
        nifOf (adjust useEmergencyPdn agpsType mask).1 = nif ∧
        adjust useEmergencyPdn agpsType mask = (sm'.agpsType, sm'.apnTypeMask)) ∨
      ((∀ h, asked nif h (.event e) = none) ∧
        sm'.agpsType = sm.agpsType ∧ sm'.apnTypeMask = sm.apnTypeMask) := by
  cases hs with
  | other ht => exact Or.inr ⟨asked_of_target_ne ht, rfl, rfl⟩
  | request useEmergencyPdn h agpsType agpsType' mask mask' hadj hn =>
    obtain ⟨htype, hmask, -⟩ := request_spec sm h agpsType' mask'
    exact Or.inl
      ⟨useEmergencyPdn, h, agpsType, mask, rfl, by rwa [hadj], by rw [hadj, htype, hmask]⟩
  | release h => exact Or.inr ⟨fun _ ↦ rfl, parameters_unsubscribe sm h⟩
  | granted agpsType apn len bearer =>
    have hset := parameters_setAPN (sm.setBearer bearer) apn (len % 2 ^ 32).toNat
    have hgr := parameters_granted ((sm.setBearer bearer).setAPN apn (len % 2 ^ 32).toNat)
    exact Or.inr ⟨fun _ ↦ rfl, hgr.1.trans hset.1, hgr.2.trans hset.2⟩
  | denied => exact Or.inr ⟨fun _ ↦ rfl, parameters_denied sm⟩
  | released => exact Or.inr ⟨fun _ ↦ rfl, parameters_released sm⟩
  | ssr => exact Or.inr ⟨fun _ ↦ rfl, rfl, rfl⟩

end Steps

/-! ## Runs -/

/-- A request to a machine whose connection is wanted already is for the parameters it holds. -/
def SameParameters (m : AgpsManager) : ManagerCall → Prop
  | .requestATL useEmergencyPdn connHandle agpsType mask =>
    ∀ sm ∈ m.getAgpsStateMachine (nifOf (adjust useEmergencyPdn agpsType mask).1),
      sm.WantedBeside connHandle →
        adjust useEmergencyPdn agpsType mask = (sm.agpsType, sm.apnTypeMask)
  | _ => True

instance (m : AgpsManager) (e : ManagerCall) : Decidable (SameParameters m e) :=
  match e with
  | .requestATL useEmergencyPdn connHandle agpsType mask =>
    inferInstanceAs (Decidable (∀ sm ∈ m.getAgpsStateMachine (nifOf (adjust useEmergencyPdn agpsType mask).1), _))
  | .releaseATL _ | .reportAtlOpenSuccess .. | .reportAtlOpenFailed _ | .reportAtlClosed _
  | .handleModemSSR => isTrue trivial

/-- What the calls of a machine so far carry, and what its next ones will. -/
structure Matched (nif : Nif) (items : List (Item ManagerCall Call)) (sm : AgpsStateMachine) :
    Prop where
  agrees : Agrees sm
  owned : Owned (fun h ↦ latest (asked nif h) items) sm
  requested : sm.state.connection ≠ .gone →
    latest requestedParameters items = some (sm.agpsType, sm.apnTypeMask)
  carries : Always (Carries nif) items

section Runs

variable {m : AgpsManager} {nif : Nif} {sm sm' : AgpsStateMachine} {e : ManagerCall}
  {calls : List Call} {items : List (Item ManagerCall Call)} {h : ℤ}

theorem asked_request {useEmergencyPdn : UInt32} {h' : ℤ} {agpsType : AGpsExtType}
    {mask : LocApnTypeMask} (hn : nifOf (adjust useEmergencyPdn agpsType mask).1 = nif) :
    asked nif h (.event (.requestATL useEmergencyPdn h' agpsType mask))
      = if h' = h then some (adjust useEmergencyPdn agpsType mask) else none := by
  simp only [asked, hn, and_true]

theorem owned_step (hm : Matched nif items sm) (hs : MachineStep m nif sm e sm' calls)
    (hsm : m.getAgpsStateMachine nif = some sm) (hg : SameParameters m e) :
    Owned (fun h ↦ latest (asked nif h) (items ++ entry e calls)) sm' := by
  have hown := hm.owned
  have hnone : (∀ h, asked nif h (.event e) = none) →
      (fun h ↦ latest (asked nif h) (items ++ entry e calls)) =
        fun h ↦ latest (asked nif h) items := by
    intro hasked
    funext h
    rw [latest_append_entry (fun _ ↦ rfl), hasked, Option.none_or]
  cases hs with
  | other ht =>
    rw [hnone (asked_of_target_ne ht)]
    exact hown
  | request useEmergencyPdn h agpsType agpsType' mask mask' hadj hn =>
    have hn' : nifOf (adjust useEmergencyPdn agpsType mask).1 = nif := by rwa [hadj]
    have hupd : (fun h' ↦ latest (asked nif h') (items ++ entry
        (.requestATL useEmergencyPdn h agpsType mask) (sm.request h agpsType' mask').2))
        = Function.update (fun h ↦ latest (asked nif h) items) h (some (agpsType', mask')) := by
      funext h'
      rw [latest_append_entry (fun _ ↦ rfl), asked_request hn', hadj]
      by_cases hh : h = h'
      · rw [if_pos hh, Option.some_or, hh, Function.update_self]
      · rw [if_neg hh, Option.none_or, Function.update_of_ne (Ne.symm hh)]
    rw [hupd]
    refine hown.request hm.agrees fun hw ↦ ?_
    have hsame := hg sm (by rw [hn']; exact hsm) hw
    rw [hadj] at hsame
    exact ⟨(Prod.mk.inj hsame).1.symm, (Prod.mk.inj hsame).2.symm⟩
  | release h =>
    rw [hnone fun _ ↦ rfl]
    exact hown.unsubscribe hm.agrees.nodup
  | granted agpsType apn len bearer =>
    rw [hnone fun _ ↦ rfl]
    have hset : Owned (fun h ↦ latest (asked nif h) items) (sm.setBearer bearer) :=
      hown.congr rfl rfl ⟨rfl, rfl⟩
    exact (hset.congr (setAPN_state _ _) (setAPN_subscriberList _ _)
      (parameters_setAPN _ apn _)).granted
  | denied =>
    rw [hnone fun _ ↦ rfl]
    exact hown.denied
  | released =>
    rw [hnone fun _ ↦ rfl]
    exact hown.released
  | ssr =>
    rw [hnone fun _ ↦ rfl]
    constructor
    · intro _ s hs
      cases hs
    · intro _ s hs
      cases hs

/-- Whoever is told of an open connection asked for what the machine then holds. -/
theorem own_of_told (hm : Matched nif items sm) (hs : MachineStep m nif sm e sm' calls)
    (hsm : m.getAgpsStateMachine nif = some sm) (hg : SameParameters m e)
    (ht : Told nif sm e h) :
    (asked nif h (.event e)).or (latest (asked nif h) items)
      = some (sm'.agpsType, sm'.apnTypeMask) := by
  have hlisted : sm.state = .pending → h ∈ sm.handles →
      latest (asked nif h) items = some (sm.agpsType, sm.apnTypeMask) := by
    intro hst hh
    obtain ⟨s, hs, rfl⟩ := mem_map.mp hh
    exact hm.owned.wanted (Or.inl hst) s hs
  rcases parameters_of_machineStep hs with ⟨p, h', t, k, rfl, hn, hadj⟩ | ⟨hnone, htype, hmask⟩
  · rw [asked_request hn]
    by_cases hh : h' = h
    · rw [if_pos hh, Option.some_or, hadj]
    · rw [if_neg hh, Option.none_or]
      rcases ht with ⟨_, _, _, heq, -⟩ | ⟨hst, hmem⟩
      · exact absurd (ManagerCall.requestATL.inj heq).2.1 hh
      · rw [hlisted hst hmem, ← hadj, hg sm (by rw [hn]; exact hsm) (Or.inl hst)]
  · rw [hnone, Option.none_or, htype, hmask]
    rcases ht with ⟨p, t, k, rfl, hn⟩ | ⟨hst, hmem⟩
    · have hask := hnone h
      rw [asked_request hn, if_pos rfl] at hask
      cases hask
    · exact hlisted hst hmem

/-- While the connection is outstanding, a step does not change the parameters. -/
theorem parameters_of_outstanding (hs : MachineStep m nif sm e sm' calls)
    (hsm : m.getAgpsStateMachine nif = some sm) (hg : SameParameters m e)
    (hout : sm.state.connection ≠ .gone) :
    (sm'.agpsType, sm'.apnTypeMask) = (sm.agpsType, sm.apnTypeMask) := by
  have hw : ∀ h, sm.WantedBeside h := by
    intro h
    cases hst : sm.state with
    | pending => exact Or.inl hst
    | acquired => exact Or.inr (Or.inl hst)
    | _ => rw [hst] at hout; exact absurd rfl hout
  rcases parameters_of_machineStep hs with ⟨p, h', t, k, rfl, hn, hadj⟩ | ⟨-, htype, hmask⟩
  · rw [← hadj, hg sm (by rw [hn]; exact hsm) (hw h')]
  · rw [htype, hmask]

/-- Calls to the adapter, from a step that told only those who asked for what the machine holds. -/
private theorem carries_toAdapter {pre : List (Item ManagerCall Call)}
    (hpre : Always (Carries nif) pre)
    (hc : ∀ c ∈ calls, ToAdapter nif sm e sm' c)
    (hown : ∀ h, Told nif sm e h →
      latest (asked nif h) pre = some (sm'.agpsType, sm'.apnTypeMask)) :
    Always (Carries nif) (pre ++ calls.map .out) ∧
      latest requestedParameters (pre ++ calls.map .out) = latest requestedParameters pre := by
  constructor
  · refine always_append.mpr ⟨hpre, ?_⟩
    intro before x after hx
    obtain ⟨c, hcalls, rfl⟩ :=
      mem_map.mp (hx ▸ mem_append_right before (mem_cons_self ..))
    have hbefore : ∀ y ∈ before, ∃ c, y = .out c := by
      intro y hy
      obtain ⟨c, -, rfl⟩ := mem_map.mp (hx ▸ mem_append_left _ hy)
      exact ⟨c, rfl⟩
    have hadapter := hc c hcalls
    cases c with
    | openStatus h ok apn len bearer t k =>
      obtain ⟨rfl, rfl, htold⟩ := hadapter
      change latest (asked nif h) (pre ++ before) = _
      rw [latest_append_of_none]
      · exact hown h htold
      · intro y hy
        obtain ⟨c, rfl⟩ := hbefore y hy
        rfl
    | closeStatus => trivial
    | requestDataConn => trivial
    | releaseDataConn => exact hadapter.elim
  · refine latest_append_of_none fun x hx ↦ ?_
    obtain ⟨c, hcalls, rfl⟩ := mem_map.mp hx
    have hadapter := hc c hcalls
    cases c with
    | requestDataConn => exact hadapter.elim
    | _ => rfl

theorem Matched.step (hm : Matched nif items sm) (hs : MachineStep m nif sm e sm' calls)
    (hsm : m.getAgpsStateMachine nif = some sm) (hg : SameParameters m e)
    (hq : QuietRestart m e) : Matched nif (items ++ entry e calls) sm' := by
  have hagrees : Agrees sm' := hm.agrees.step hs fun hssr ↦
    List.isEmpty_iff.mp (AgpsManager.of_all (hq hssr) hsm)
  have howned := owned_step hm hs hsm hg
  have hev : Always (Carries nif) (items ++ [.event e]) :=
    always_concat.mpr ⟨hm.carries, trivial⟩
  have hreq : latest requestedParameters (items ++ [.event e]) =
      latest requestedParameters items := by
    rw [latest_concat]
    rfl
  have hown : ∀ h, Told nif sm e h →
      latest (asked nif h) (items ++ [.event e]) = some (sm'.agpsType, sm'.apnTypeMask) := by
    intro h ht
    rw [latest_concat]
    exact own_of_told hm hs hsm hg ht
  have hparams := parameters_of_outstanding hs hsm hg
  cases connStep_of_machineStep hs with
  | keep hc hnext =>
    obtain ⟨hcarries, hlast⟩ := carries_toAdapter hev hc hown
    rw [append_entry] at howned ⊢
    refine ⟨hagrees, howned, fun hout ↦ ?_, hcarries⟩
    have hout' : sm.state.connection ≠ .gone := by
      intro hgone
      rw [hgone, next_event_gone] at hnext
      exact hout hnext.symm
    rw [hlast, hreq, hm.requested hout', hparams hout']
  | request calls hc hgone hpend =>
    obtain ⟨hcarries, hlast⟩ := carries_toAdapter hev hc hown
    rw [append_entry, map_append, map_singleton, ← append_assoc] at howned ⊢
    refine ⟨hagrees, howned, fun _ ↦ ?_, always_concat.mpr ⟨hcarries, trivial⟩⟩
    rw [latest_concat]
    rfl
  | release calls connHandle he hc hout hgone htype hmask =>
    obtain ⟨hcarries, hlast⟩ := carries_toAdapter hev hc hown
    rw [append_entry, map_append, map_singleton, ← append_assoc] at howned ⊢
    refine ⟨hagrees, howned, fun hout' ↦ absurd hgone hout', always_concat.mpr ⟨hcarries, ?_⟩⟩
    change latest requestedParameters _ = some (sm'.agpsType, sm'.apnTypeMask)
    rw [hlast, hreq, hm.requested hout, htype, hmask]

end Runs

/-- **Calls carry the parameters of their own request.** In every run in which nobody asks for a
different connection while one is wanted, every open-status call carries the parameters that were
last asked for by its handle, and every release those of the request it cancels. -/
theorem carries_of_run {m₀ m : AgpsManager} {hist : List (Item ManagerCall (Nif × Call))}
    (h₀ : m₀.Initial)
    (hr : Run AgpsManager.step (fun m e ↦ SameParameters m e ∧ QuietRestart m e) m₀ hist m)
    (nif : Nif) : Always (Carries nif) (view nif hist) := by
  refine (hr.invariant (I := fun hist m ↦ Always (Carries nif) (view nif hist) ∧
    ∀ sm, m.getAgpsStateMachine nif = some sm → Matched nif (view nif hist) sm) ?_ ?_).1
  · refine ⟨always_nil _, fun sm hsm ↦ ?_⟩
    obtain ⟨agpsType, mask, rfl⟩ := h₀ nif sm hsm
    exact ⟨Agrees.create agpsType mask, Owned.create agpsType mask,
      fun hout ↦ absurd rfl hout, always_nil _⟩
  · rintro hist m e m' outs ⟨hcarries, ih⟩ ⟨hsame, hquiet⟩ hstep
    rw [view_append_entry]
    have hmachine : ∀ sm', m'.getAgpsStateMachine nif = some sm' →
        Matched nif (view nif hist ++ entry e (callsOf nif outs)) sm' := by
      intro sm' hsm'
      obtain ⟨sm, hsm, hms⟩ := AgpsManager.machineStep_of_step hstep hsm'
      exact (ih sm hsm).step hms hsm hsame hquiet
    refine ⟨?_, hmachine⟩
    cases hsm : m.getAgpsStateMachine nif with
    | some sm =>
      obtain ⟨sm', hsm', -⟩ := AgpsManager.step_machine hstep hsm
      exact (hmachine sm' hsm').carries
    | none =>
      rcases AgpsManager.callsOf_missing hstep hsm with hcalls | ⟨p, h, t, k, rfl, hn, hcalls⟩
      · rw [hcalls]
        exact always_concat.mpr ⟨hcarries, trivial⟩
      · rw [hcalls, append_entry, map_singleton]
        refine always_concat.mpr ⟨always_concat.mpr ⟨hcarries, trivial⟩, ?_⟩
        change latest (asked nif h) _ = _
        rw [latest_concat, asked_request hn, if_pos rfl]
        rfl

/-- Two subscribers of one SUPL connection, told of it with the parameters they asked for. -/
theorem carries_of_run_shared : ∃ hist m,
    Run AgpsManager.step (fun m e ↦ SameParameters m e ∧ QuietRestart m e) sampleManager hist m ∧
      .out (.openStatus 8 true none 0 1 locAgpsTypeSupl 16) ∈ view .agnss hist ∧
      Always (Carries .agnss) (view .agnss hist) := by
  obtain ⟨hist, m, hr, hmem⟩ := Run.exists_of_runEvents AgpsManager.step
    (fun m e ↦ SameParameters m e ∧ QuietRestart m e) sampleManager
    [.requestATL 1 7 locAgpsTypeSupl 16, .requestATL 1 8 locAgpsTypeSupl 16,
      .reportAtlOpenSuccess locAgpsTypeSupl none 0 1]
    (fun hist _ ↦ Item.out (.openStatus 8 true none 0 1 locAgpsTypeSupl 16)
      ∈ view .agnss hist) (by decide)
  exact ⟨hist, m, hr, hmem, carries_of_run initial_sampleManager hr .agnss⟩

/-- An emergency request while a SUPL request is pending: the SUPL subscriber is told of the
connection with the parameters of the emergency request. -/
theorem not_carries_emergency : ∃ hist m,
    Run AgpsManager.step (fun _ _ ↦ True) sampleManager hist m ∧
      ¬Always (Carries .agnss) (view .agnss hist) := by
  obtain ⟨hist, m, hr, hview⟩ := Run.exists_of_runEvents AgpsManager.step (fun _ _ ↦ True)
    sampleManager
    [.requestATL 1 7 locAgpsTypeSupl 16, .requestATL 1 8 locAgpsTypeSuplEs 512,
      .reportAtlOpenSuccess locAgpsTypeSuplEs none 0 1]
    (fun hist _ ↦ view .agnss hist
      = [.event (.requestATL 1 7 locAgpsTypeSupl 16), .out (.requestDataConn locAgpsTypeSupl 16),
        .event (.requestATL 1 8 locAgpsTypeSuplEs 512),
        .event (.reportAtlOpenSuccess locAgpsTypeSuplEs none 0 1),
        .out (.openStatus 7 true none 0 1 locAgpsTypeSuplEs 512),
        .out (.openStatus 8 true none 0 1 locAgpsTypeSuplEs 512)]) (by decide)
  refine ⟨hist, m, hr, fun hall ↦ ?_⟩
  have htold := hall [_, _, _, _] _ [_] hview
  change latest (asked .agnss 7) _ = some (locAgpsTypeSuplEs, 512) at htold
  exact absurd htold (by decide)

end MataDevice.Agps
