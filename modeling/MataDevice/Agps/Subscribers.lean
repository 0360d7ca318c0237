import MataDevice.Agps.Manager

/-!
# States and subscribers agree

The state of a machine says who is in its subscriber list: nobody while the connection is released,
at least one active subscriber while it is wanted, and somebody while it is being released. Every
event keeps this, since each one that takes the last subscriber or the last active one out of the
list also changes the state. `handleModemSSR` does not: it empties the list of a machine in any
state, and the law holds for the runs in which the modem restarts only while no machine has
subscribers.
-/

namespace MataDevice.Agps

open List

variable {sm sm' : AgpsStateMachine} {h : ℤ} {current : AgpsSubscriber}

/-! ## The subscriber list -/

def AgpsStateMachine.handles (sm : AgpsStateMachine) : List ℤ :=
  sm.subscriberList.map AgpsSubscriber.connHandle

theorem anyActiveSubscribers_iff :
    sm.anyActiveSubscribers = true ↔ ∃ s ∈ sm.subscriberList, s.isInactive = false := by
  simp [AgpsStateMachine.anyActiveSubscribers]

/-- `addSubscriber` for a handle that is listed, and for one that is not. -/
theorem addSubscriber_cases (sm : AgpsStateMachine) (current : AgpsSubscriber) :
    (current.connHandle ∈ sm.handles ∧ sm.addSubscriber current = sm) ∨
      (current.connHandle ∉ sm.handles ∧ sm.addSubscriber current
        = { sm with subscriberList := sm.subscriberList ++ [current] }) := by
  have hany : (sm.subscriberList.any fun s ↦ s.connHandle == current.connHandle) = true
      ↔ current.connHandle ∈ sm.handles := by
    simp [AgpsStateMachine.handles]
  by_cases hmem : current.connHandle ∈ sm.handles
  · exact Or.inl ⟨hmem, if_pos (hany.mpr hmem)⟩
  · exact Or.inr ⟨hmem, if_neg (mt hany.mp hmem)⟩

/-- Adding a subscriber keeps those that are there. -/
theorem subset_addSubscriber (sm : AgpsStateMachine) (current : AgpsSubscriber) :
    sm.subscriberList ⊆ (sm.addSubscriber current).subscriberList := by
  rcases addSubscriber_cases sm current with ⟨-, hadd⟩ | ⟨-, hadd⟩
  · rw [hadd]
    exact List.Subset.refl _
  · rw [hadd]
    exact subset_append_left _ _

theorem state_addSubscriber (sm : AgpsStateMachine) (current : AgpsSubscriber) :
    (sm.addSubscriber current).state = sm.state := by
  rcases addSubscriber_cases sm current with ⟨-, hadd⟩ | ⟨-, hadd⟩ <;> rw [hadd]

theorem addSubscriber_parameters (sm : AgpsStateMachine) (current : AgpsSubscriber) :
    (sm.addSubscriber current).agpsType = sm.agpsType ∧
      (sm.addSubscriber current).apnTypeMask = sm.apnTypeMask := by
  rcases addSubscriber_cases sm current with ⟨-, hadd⟩ | ⟨-, hadd⟩ <;> rw [hadd] <;>
    exact ⟨rfl, rfl⟩

theorem mem_addSubscriber {sm : AgpsStateMachine} {current s : AgpsSubscriber}
    (hs : s ∈ (sm.addSubscriber current).subscriberList) : s ∈ sm.subscriberList ∨ s = current := by
  rcases addSubscriber_cases sm current with ⟨-, hadd⟩ | ⟨-, hadd⟩
  · rw [hadd] at hs
    exact Or.inl hs
  · rw [hadd] at hs
    simpa using hs

/-- What a request leaves of a machine, in any state. -/
theorem request_spec (sm : AgpsStateMachine) (h : ℤ) (agpsType : AGpsExtType)
    (mask : LocApnTypeMask) :
    (sm.request h agpsType mask).1.agpsType = agpsType ∧
      (sm.request h agpsType mask).1.apnTypeMask = mask ∧
      (sm.request h agpsType mask).1.state = (if sm.state = .released then .pending else sm.state) ∧
      ∀ s ∈ (sm.request h agpsType mask).1.subscriberList,
        s ∈ sm.subscriberList ∨ s = ⟨h, true, false, mask⟩ := by
  set sm₁ := (sm.setType agpsType).setApnTypeMask mask with hsm₁
  set current : AgpsSubscriber := ⟨h, true, false, mask⟩ with hcurrent
  have hp := addSubscriber_parameters sm₁ current
  have hst := state_addSubscriber sm₁ current
  have hmem : ∀ s ∈ (sm₁.addSubscriber current).subscriberList,
      s ∈ sm.subscriberList ∨ s = current := fun s ↦ mem_addSubscriber
  change (sm₁.processAgpsEventSubscribe current).1.agpsType = agpsType ∧
    (sm₁.processAgpsEventSubscribe current).1.apnTypeMask = mask ∧
    (sm₁.processAgpsEventSubscribe current).1.state = _ ∧
    ∀ s ∈ (sm₁.processAgpsEventSubscribe current).1.subscriberList, _
  rw [AgpsStateMachine.processAgpsEventSubscribe, show sm₁.state = sm.state from rfl]
  cases hstate : sm.state with
  | released => exact ⟨hp.1, hp.2, rfl, hmem⟩
  | pending => exact ⟨hp.1, hp.2, hst.trans hstate, hmem⟩
  | acquired => exact ⟨hp.1, hp.2, hst.trans hstate, hmem⟩
  | releasing => exact ⟨hp.1, hp.2, hst.trans hstate, hmem⟩

/-- A subscriber after `releaseATL` of a handle. -/
def markInactive (h : ℤ) (s : AgpsSubscriber) : AgpsSubscriber :=
  if s.connHandle = h then { s with isInactive := true } else s

@[simp] theorem markInactive_connHandle (s : AgpsSubscriber) :
    (markInactive h s).connHandle = s.connHandle := by
  rw [markInactive]
  split_ifs <;> rfl

private theorem replaceF_eq_map {list : List AgpsSubscriber}
    (hn : (list.map AgpsSubscriber.connHandle).Nodup) :
    list.replaceF (fun s ↦ if s.connHandle = h then some { s with isInactive := true } else none)
      = list.map (markInactive h) := by
  induction list with
  | nil => rfl
  | cons s list ih =>
    rw [map_cons, nodup_cons] at hn
    rw [replaceF_cons, map_cons]
    by_cases hs : s.connHandle = h
    · have hid : list.map (markInactive h) = list := by
        refine (map_congr_left fun t ht ↦ if_neg ?_).trans (map_id list)
        rintro rfl
        exact hn.1 (hs ▸ mem_map_of_mem ht)
      simp only [hs, if_true, hid, markInactive]
    · simp only [hs, if_false, ih hn.2, markInactive]

/-- With one entry for each handle, deactivating the first one found deactivates all there are. -/
theorem deactivate_eq_map (hn : sm.handles.Nodup) :
    sm.deactivate h = { sm with subscriberList := sm.subscriberList.map (markInactive h) } := by
  rw [AgpsStateMachine.deactivate, replaceF_eq_map hn]

theorem handles_deactivate (hn : sm.handles.Nodup) : (sm.deactivate h).handles = sm.handles := by
  rw [deactivate_eq_map hn]
  simp only [AgpsStateMachine.handles, map_map]
  exact map_congr_left fun s _ ↦ markInactive_connHandle s

/-- A subscriber that leaves stays in the list or is deleted from it. -/
theorem leave_cases (sm : AgpsStateMachine) (h : ℤ) :
    sm.leave h = (sm, []) ∧ h ∉ sm.handles ∨ sm.leave h = (sm.deactivate h, []) ∨
      sm.leave h = (sm.deleteSubscriber h, [.closeStatus h true]) := by
  rw [AgpsStateMachine.leave]
  cases hget : sm.getSubscriber h with
  | none =>
    refine Or.inl ⟨rfl, fun hmem ↦ ?_⟩
    obtain ⟨s, hs, hh⟩ := mem_map.mp hmem
    exact absurd hh (by simpa using List.find?_eq_none.mp hget s hs)
  | some current =>
    cases hw : current.waitForCloseComplete
    · exact Or.inr (Or.inr (by simp only [hw, Bool.false_eq_true, if_false]; rfl))
    · exact Or.inr (Or.inl (by simp only [hw, if_true]))

theorem leave_state : (sm.leave h).1.state = sm.state := by
  rcases leave_cases sm h with ⟨hl, -⟩ | hl | hl <;> rw [hl] <;> rfl

theorem handles_leave_sublist (hn : sm.handles.Nodup) :
    List.Sublist (sm.leave h).1.handles sm.handles := by
  rcases leave_cases sm h with ⟨hl, -⟩ | hl | hl
  · rw [hl]
  · rw [hl, handles_deactivate hn]
  · rw [hl]
    exact filter_sublist.map _

/-- Who is in the list after a subscriber left: the others as they were, and the one that left only
as inactive. -/
theorem mem_leave (hn : sm.handles.Nodup) {s' : AgpsSubscriber}
    (hs' : s' ∈ (sm.leave h).1.subscriberList) :
    s'.connHandle ≠ h ∧ s' ∈ sm.subscriberList ∨
      s'.connHandle = h ∧ s'.isInactive = true ∧
        ∃ s ∈ sm.subscriberList, s.connHandle = s'.connHandle := by
  rcases leave_cases sm h with ⟨hl, hnot⟩ | hl | hl
  · rw [hl] at hs'
    exact Or.inl ⟨fun hh ↦ hnot (hh ▸ mem_map_of_mem hs'), hs'⟩
  · rw [hl, deactivate_eq_map hn] at hs'
    obtain ⟨s, hs, rfl⟩ := mem_map.mp hs'
    by_cases hh : s.connHandle = h
    · refine Or.inr ⟨(markInactive_connHandle s).trans hh, ?_, s, hs,
        (markInactive_connHandle s).symm⟩
      rw [markInactive, if_pos hh]
    · have hsame : markInactive h s = s := if_neg hh
      rw [hsame]
      exact Or.inl ⟨hh, hs⟩
  · rw [hl] at hs'
    obtain ⟨hs, hh⟩ := mem_filter.mp hs'
    exact Or.inl ⟨by simpa using hh, hs⟩

@[simp] theorem transitionState_state (newState : AgpsState) :
    (sm.transitionState newState).state = newState := rfl

@[simp] theorem notifyAllSubscribers_state (notice : Notice) (delete : Bool)
    (notificationType : AgpsNotificationType) :
    (sm.notifyAllSubscribers notice delete notificationType).1.state = sm.state := rfl

@[simp] theorem setAPN_state (apn : Option (List UInt8)) (len : ℕ) :
    (sm.setAPN apn len).state = sm.state := by
  cases apn with
  | none => rfl
  | some name =>
    rw [AgpsStateMachine.setAPN]
    split_ifs <;> rfl

@[simp] theorem setAPN_subscriberList (apn : Option (List UInt8)) (len : ℕ) :
    (sm.setAPN apn len).subscriberList = sm.subscriberList := by
  cases apn with
  | none => rfl
  | some name =>
    rw [AgpsStateMachine.setAPN]
    split_ifs <;> rfl

theorem notifyAll_delete (notice : Notice) :
    sm.notifyAllSubscribers notice true .allSubscribers
      = ({ sm with subscriberList := [] },
        sm.subscriberList.map fun s ↦ sm.notifyCall notice s.connHandle) := by
  have hall : sm.subscriberList.filter AgpsNotificationType.allSubscribers.concerns
      = sm.subscriberList := filter_eq_self.mpr fun _ _ ↦ rfl
  simp [AgpsStateMachine.notifyAllSubscribers, hall, AgpsNotificationType.concerns]

/-- Finishing a release: the active subscribers stay, and if there are any, the connection is
requested again. -/
theorem finishRelease_cases (sm : AgpsStateMachine) :
    ((∃ s ∈ sm.subscriberList, s.isInactive = false) ∧ sm.finishRelease
      = ({ sm with
            subscriberList := sm.subscriberList.filter fun s ↦ !s.isInactive, state := .pending },
          ((sm.subscriberList.filter AgpsSubscriber.isInactive).map fun s ↦
            Call.closeStatus s.connHandle true) ++ [sm.dataConnCall true])) ∨
      ((∀ s ∈ sm.subscriberList, s.isInactive = true) ∧ sm.finishRelease
        = ({ sm with subscriberList := [], state := .released },
          sm.subscriberList.map fun s ↦ Call.closeStatus s.connHandle true)) := by
  by_cases hact : ∃ s ∈ sm.subscriberList, s.isInactive = false
  · refine Or.inl ⟨hact, ?_⟩
    obtain ⟨s, hs, hs'⟩ := hact
    have hany : (sm.notifyAllSubscribers .released true .inactiveSubscribers).1.anyActiveSubscribers
        = true :=
      anyActiveSubscribers_iff.mpr ⟨s, mem_filter.mpr ⟨hs, by
        simp [AgpsNotificationType.concerns, hs']⟩, hs'⟩
    rw [AgpsStateMachine.finishRelease, if_pos hany]
    rfl
  · have hall : ∀ s ∈ sm.subscriberList, s.isInactive = true := by simpa using hact
    refine Or.inr ⟨hall, ?_⟩
    have hnone : (sm.subscriberList.filter fun s ↦
        !AgpsNotificationType.inactiveSubscribers.concerns s) = [] := by
      simpa [AgpsNotificationType.concerns] using hall
    have hfull : sm.subscriberList.filter AgpsNotificationType.inactiveSubscribers.concerns
        = sm.subscriberList := by
      simpa [AgpsNotificationType.concerns] using hall
    have hany : (sm.notifyAllSubscribers .released true .inactiveSubscribers).1.anyActiveSubscribers
        = false := by
      simp [AgpsStateMachine.anyActiveSubscribers, AgpsStateMachine.notifyAllSubscribers, hnone]
    rw [AgpsStateMachine.finishRelease, if_neg (by rw [hany]; decide)]
    simp only [AgpsStateMachine.notifyAllSubscribers, if_true, hnone, hfull]
    rfl

/-! ## The invariant -/

/-- The state of a machine and its subscriber list agree. -/
structure Agrees (sm : AgpsStateMachine) : Prop where
  released : sm.state = .released → sm.subscriberList = []
  active : sm.state = .pending ∨ sm.state = .acquired →
    ∃ s ∈ sm.subscriberList, s.isInactive = false
  releasing : sm.state = .releasing → sm.subscriberList ≠ []
  nodup : sm.handles.Nodup

namespace Agrees

theorem create (agpsType : AGpsExtType) (mask : LocApnTypeMask) :
    Agrees (.create agpsType mask) where
  released _ := rfl
  active := by rintro (hst | hst) <;> cases hst
  releasing hst := by cases hst
  nodup := nodup_nil

/-- Agreement does not depend on the parameters of the connection. -/
theorem congr (ha : Agrees sm) (hst : sm'.state = sm.state)
    (hl : sm'.subscriberList = sm.subscriberList) : Agrees sm' where
  released := by rw [hst, hl]; exact ha.released
  active := by rw [hst, hl]; exact ha.active
  releasing := by rw [hst, hl]; exact ha.releasing
  nodup := by rw [AgpsStateMachine.handles, hl]; exact ha.nodup

private theorem nodup_addSubscriber (ha : Agrees sm) :
    (sm.addSubscriber current).handles.Nodup := by
  rcases addSubscriber_cases sm current with ⟨-, hadd⟩ | ⟨hmem, hadd⟩
  · rw [hadd]
    exact ha.nodup
  · rw [hadd, AgpsStateMachine.handles, map_append, map_singleton]
    exact nodup_append.mpr ⟨ha.nodup, nodup_singleton _, by
      rintro a hmem' b hb rfl
      exact hmem (by rwa [mem_singleton.mp hb] at hmem')⟩

private theorem addSubscriber (ha : Agrees sm) (hst : sm.state ≠ .released) :
    Agrees (sm.addSubscriber current) where
  released hr := absurd ((state_addSubscriber sm current).symm.trans hr) hst
  active hp := by
    rw [state_addSubscriber] at hp
    obtain ⟨s, hs, hact⟩ := ha.active hp
    exact ⟨s, subset_addSubscriber sm current hs, hact⟩
  releasing hr hnil := by
    rw [state_addSubscriber] at hr
    have hsub := subset_addSubscriber sm current
    rw [hnil] at hsub
    exact ha.releasing hr (subset_nil.mp hsub)
  nodup := ha.nodup_addSubscriber

theorem processSubscribe (ha : Agrees sm) (hact : current.isInactive = false) :
    Agrees (sm.processAgpsEventSubscribe current).1 := by
  rw [AgpsStateMachine.processAgpsEventSubscribe]
  cases hst : sm.state with
  | released =>
    -- a released machine has no subscribers, so that the new one is the only one
    have hadd : sm.addSubscriber current = { sm with subscriberList := [current] } := by
      rcases addSubscriber_cases sm current with ⟨hmem, -⟩ | ⟨-, hadd⟩
      · rw [AgpsStateMachine.handles, ha.released hst] at hmem
        cases hmem
      · rw [hadd, ha.released hst, nil_append]
    rw [hadd]
    refine ⟨by simp, fun _ ↦ ?_, by simp, nodup_singleton _⟩
    exact ⟨current, mem_singleton_self _, hact⟩
  | pending => exact ha.addSubscriber (by rw [hst]; decide)
  | acquired => exact ha.addSubscriber (by rw [hst]; decide)
  | releasing => exact ha.addSubscriber (by rw [hst]; decide)

private theorem releaseUnwanted {left : AgpsStateMachine × List Call} (hnd : left.1.handles.Nodup)
    (hst : left.1.state = .pending ∨ left.1.state = .acquired) :
    Agrees (AgpsStateMachine.releaseUnwanted left).1 := by
  rw [AgpsStateMachine.releaseUnwanted]
  split_ifs with hempty hact
  · exact ⟨fun _ ↦ List.isEmpty_iff.mp hempty, by simp, by simp, hnd⟩
  · exact ⟨by simp, by simp, fun _ ↦ mt List.isEmpty_iff.mpr hempty, hnd⟩
  · have hsome : left.1.anyActiveSubscribers = true := by simpa using hact
    refine ⟨fun hr ↦ ?_, fun _ ↦ anyActiveSubscribers_iff.mp hsome, fun hr ↦ ?_, hnd⟩
    · rcases hst with hst | hst <;> simp [hst] at hr
    · rcases hst with hst | hst <;> simp [hst] at hr

theorem processUnsubscribe (ha : Agrees sm) : Agrees (sm.processAgpsEventUnsubscribe h).1 := by
  have hnd : (sm.leave h).1.handles.Nodup := (handles_leave_sublist ha.nodup).nodup ha.nodup
  have hstate : (sm.leave h).1.state = sm.state := leave_state
  rw [AgpsStateMachine.processAgpsEventUnsubscribe]
  cases hst : sm.state with
  | released => exact ha
  | pending => exact releaseUnwanted hnd (Or.inl (hstate.trans hst))
  | acquired => exact releaseUnwanted hnd (Or.inr (hstate.trans hst))
  | releasing =>
    simp only
    split_ifs with hempty
    · exact ⟨fun _ ↦ List.isEmpty_iff.mp hempty, by simp, by simp, hnd⟩
    -- the release has been requested already, and the rest of the list waits for it
    · refine ⟨fun hr ↦ ?_, fun hr ↦ ?_, fun _ ↦ mt List.isEmpty_iff.mpr hempty, hnd⟩
      · simp [hstate, hst] at hr
      · simp [hstate, hst] at hr

theorem processGranted (ha : Agrees sm) : Agrees sm.processAgpsEventGranted.1 := by
  rw [AgpsStateMachine.processAgpsEventGranted]
  cases hst : sm.state with
  | pending => exact ⟨by simp, fun _ ↦ ha.active (Or.inl hst), by simp, ha.nodup⟩
  | released => exact ha
  | acquired => exact ha
  | releasing => exact ha

theorem processFinishRelease (ha : Agrees sm) : Agrees sm.finishRelease.1 := by
  have hnd : (sm.subscriberList.filter fun s ↦ !s.isInactive).map AgpsSubscriber.connHandle
      |>.Nodup := (filter_sublist.map _).nodup ha.nodup
  rcases finishRelease_cases sm with ⟨⟨s, hs, hact⟩, hrel⟩ | ⟨hnone, hrel⟩
  · rw [hrel]
    -- those who came during the release are left, and they are active
    exact ⟨by simp, fun _ ↦ ⟨s, mem_filter.mpr ⟨hs, by simpa using hact⟩, hact⟩, by simp, hnd⟩
  · rw [hrel]
    exact ⟨fun _ ↦ rfl, by simp, by simp, nodup_nil⟩

theorem processReleased (ha : Agrees sm) : Agrees sm.processAgpsEventReleased.1 := by
  rw [AgpsStateMachine.processAgpsEventReleased]
  cases hst : sm.state with
  | acquired =>
    rw [notifyAll_delete]
    exact ⟨fun _ ↦ rfl, by simp, by simp, nodup_nil⟩
  | releasing => exact ha.processFinishRelease
  | released => exact ha
  | pending => exact ha

theorem processDenied (ha : Agrees sm) : Agrees sm.processAgpsEventDenied.1 := by
  rw [AgpsStateMachine.processAgpsEventDenied]
  cases hst : sm.state with
  | pending =>
    rw [notifyAll_delete]
    exact ⟨fun _ ↦ rfl, by simp, by simp, nodup_nil⟩
  | releasing => exact ha.processFinishRelease
  | released => exact ha
  | acquired => exact ha

/-- One call of the manager, at a machine whose list is empty if the modem restarts. -/
theorem step {m : AgpsManager} {nif : Nif} {e : ManagerCall} {calls : List Call}
    (hs : MachineStep m nif sm e sm' calls) (ha : Agrees sm)
    (hssr : e = .handleModemSSR → sm.subscriberList = []) : Agrees sm' := by
  cases hs with
  | other => exact ha
  | request => exact processSubscribe (ha.congr rfl rfl) rfl
  | release => exact ha.processUnsubscribe
  | granted agpsType apn len bearer =>
    exact processGranted (ha.congr (setAPN_state _ _) (setAPN_subscriberList _ _))
  | denied => exact ha.processDenied
  | released => exact ha.processReleased
  | ssr => exact ha.congr rfl (hssr rfl).symm

end Agrees

/-! ## Runs -/

/-- The modem restarts only while no machine has subscribers. -/
def QuietRestart (m : AgpsManager) (e : ManagerCall) : Prop :=
  e = .handleModemSSR → m.all (·.subscriberList.isEmpty)

instance (m : AgpsManager) (e : ManagerCall) : Decidable (QuietRestart m e) :=
  inferInstanceAs (Decidable (_ → _))

/-- **States and subscribers agree.** In every run in which the modem restarts only while no machine
has subscribers, the state of each machine and its subscriber list agree. -/
theorem agrees_of_run {m₀ m : AgpsManager} {hist : List (Item ManagerCall (Nif × Call))} {nif : Nif}
    (h₀ : m₀.Initial) (hr : Run AgpsManager.step QuietRestart m₀ hist m)
    (hsm : m.getAgpsStateMachine nif = some sm) : Agrees sm := by
  suffices hall : ∀ nif sm, m.getAgpsStateMachine nif = some sm → Agrees sm from hall nif sm hsm
  refine hr.invariant (I := fun _ m ↦ ∀ nif sm, m.getAgpsStateMachine nif = some sm → Agrees sm)
    ?_ ?_
  · intro nif sm hsm
    obtain ⟨agpsType, mask, rfl⟩ := h₀ nif sm hsm
    exact Agrees.create agpsType mask
  · intro hist m e m' outs ih hquiet hstep nif sm' hsm'
    obtain ⟨sm, hsm, hms⟩ := AgpsManager.machineStep_of_step hstep hsm'
    exact Agrees.step hms (ih nif sm hsm) fun hssr ↦
      List.isEmpty_iff.mp (AgpsManager.of_all (hquiet hssr) hsm)

/-! ### Two runs -/

/-- Both machines, fresh. -/
def sampleManager : AgpsManager :=
  AgpsManager.createAgpsStateMachines ⟨none, none⟩ true 7 0 0

theorem initial_sampleManager : sampleManager.Initial := by
  intro nif sm hsm
  cases nif
  · exact ⟨locAgpsTypeSupl, 0, (Option.some_inj.mp hsm).symm⟩
  · exact ⟨locAgpsTypeWwanAny, 0, (Option.some_inj.mp hsm).symm⟩

/-- Whether a machine is in a state. -/
def AgpsManager.isIn (m : AgpsManager) (nif : Nif) (state : AgpsState) : Bool :=
  (m.getAgpsStateMachine nif).any fun sm ↦ sm.state == state

theorem AgpsManager.exists_of_isIn {m : AgpsManager} {nif : Nif} {state : AgpsState}
    (h : m.isIn nif state = true) :
    ∃ sm, m.getAgpsStateMachine nif = some sm ∧ sm.state = state := by
  rw [isIn] at h
  cases hsm : m.getAgpsStateMachine nif with
  | none =>
    rw [hsm] at h
    cases h
  | some sm =>
    rw [hsm] at h
    exact ⟨sm, rfl, by simpa using h⟩

/-- A SUPL request that is granted. -/
theorem agrees_of_run_granted : ∃ hist m sm,
    Run AgpsManager.step QuietRestart sampleManager hist m ∧
      m.getAgpsStateMachine .agnss = some sm ∧ sm.state = .acquired ∧ Agrees sm := by
  obtain ⟨hist, m, hr, hst⟩ := Run.exists_of_runEvents AgpsManager.step QuietRestart sampleManager
    [.requestATL 1 7 locAgpsTypeSupl 16, .reportAtlOpenSuccess locAgpsTypeSupl none 0 1]
    (fun _ m ↦ m.isIn .agnss .acquired) (by decide)
  obtain ⟨sm, hsm, hst⟩ := AgpsManager.exists_of_isIn hst
  exact ⟨hist, m, sm, hr, hsm, hst, agrees_of_run initial_sampleManager hr hsm⟩

/-- A modem restart while a SUPL request is pending leaves the machine pending for nobody. -/
theorem not_agrees_restart : ∃ hist m sm,
    Run AgpsManager.step (fun _ _ ↦ True) sampleManager hist m ∧
      m.getAgpsStateMachine .agnss = some sm ∧ ¬Agrees sm := by
  obtain ⟨hist, m, hr, hst⟩ := Run.exists_of_runEvents AgpsManager.step (fun _ _ ↦ True)
    sampleManager [.requestATL 1 7 locAgpsTypeSupl 16, .handleModemSSR]
    (fun _ m ↦ m.isIn .agnss .pending && m.all (·.subscriberList.isEmpty)) (by decide)
  rw [Bool.and_eq_true] at hst
  obtain ⟨sm, hsm, hpend⟩ := AgpsManager.exists_of_isIn hst.1
  refine ⟨hist, m, sm, hr, hsm, fun ha ↦ ?_⟩
  obtain ⟨s, hs, -⟩ := ha.active (Or.inl hpend)
  rw [List.isEmpty_iff.mp (AgpsManager.of_all hst.2 hsm)] at hs
  cases hs

end MataDevice.Agps
