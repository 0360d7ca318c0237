import MataDevice.Agps.Subscribers

/-!
# Subscriptions follow the last request

A subscriber is inactive while it waits for the connection to be closed. Whether it is should depend
on what its handle asked for last, a request or a release, and as long as that is so no request is
lost: one that is not answered yet has an active subscriber, and a machine does not become released
over an active subscriber.

Two things break it. `addSubscriber` ignores a handle that is listed, also when it is listed as
inactive, so that a request made while the release of the same handle is in progress is dropped; and
`releaseATL` stops at the first machine that lists the handle.
-/

namespace MataDevice.Agps

open List

/-! ## What a handle asked for last -/

/-- Whether the item is a release of the handle, or a request for it. -/
def leaves (connHandle : ℤ) : Item ManagerCall Call → Option Bool
  | .event (.requestATL _ h _ _) => if h = connHandle then some false else none
  | .event (.releaseATL h) => if h = connHandle then some true else none
  | _ => none

/-- A request for the handle that goes to this machine. -/
def IsRequestOf (nif : Nif) (connHandle : ℤ) : Item ManagerCall Call → Prop
  | .event (.requestATL useEmergencyPdn h agpsType mask) =>
    h = connHandle ∧ nifOf (adjust useEmergencyPdn agpsType mask).1 = nif
  | _ => False

/-- An open-status call for the handle, or its release. -/
def Answers (connHandle : ℤ) : Item ManagerCall Call → Prop
  | .out (.openStatus h ..) => h = connHandle
  | .event (.releaseATL h) => h = connHandle
  | _ => False

/-- Every subscriber is inactive just when its handle left last. -/
def Follows (last : ℤ → Option Bool) (sm : AgpsStateMachine) : Prop :=
  ∀ s ∈ sm.subscriberList, last s.connHandle = some s.isInactive

/-- The handle is listed as one that still waits for the connection. -/
def Waiting (sm : AgpsStateMachine) (connHandle : ℤ) : Prop :=
  (sm.state = .pending ∨ sm.state = .releasing) ∧
    ∃ s ∈ sm.subscriberList, s.connHandle = connHandle ∧ s.isInactive = false

/-! ## One step -/

section Steps

variable {last : ℤ → Option Bool} {m : AgpsManager} {nif : Nif} {sm sm' : AgpsStateMachine}
  {e : ManagerCall} {calls : List Call} {h h' : ℤ}

theorem subscriberList_unsubscribe (hst : sm.state ≠ .released) :
    (sm.processAgpsEventUnsubscribe h).1.subscriberList = (sm.leave h).1.subscriberList := by
  rw [AgpsStateMachine.processAgpsEventUnsubscribe]
  cases hstate : sm.state with
  | released => exact absurd hstate hst
  | pending | acquired => rw [AgpsStateMachine.releaseUnwanted]; split_ifs <;> rfl
  | releasing => simp only; split_ifs <;> rfl

theorem subscriberList_granted :
    sm.processAgpsEventGranted.1.subscriberList = sm.subscriberList := by
  rw [AgpsStateMachine.processAgpsEventGranted]
  cases sm.state <;> rfl

theorem subset_finishRelease : sm.finishRelease.1.subscriberList ⊆ sm.subscriberList := by
  rcases finishRelease_cases sm with ⟨-, hrel⟩ | ⟨-, hrel⟩
  · rw [hrel]
    exact filter_subset_self _
  · rw [hrel]
    exact nil_subset _

theorem subset_denied : sm.processAgpsEventDenied.1.subscriberList ⊆ sm.subscriberList := by
  rw [AgpsStateMachine.processAgpsEventDenied]
  cases sm.state with
  | pending => rw [notifyAll_delete]; exact nil_subset _
  | releasing => exact subset_finishRelease
  | released => exact List.Subset.refl _
  | acquired => exact List.Subset.refl _

theorem subset_released : sm.processAgpsEventReleased.1.subscriberList ⊆ sm.subscriberList := by
  rw [AgpsStateMachine.processAgpsEventReleased]
  cases sm.state with
  | acquired => rw [notifyAll_delete]; exact nil_subset _
  | releasing => exact subset_finishRelease
  | released => exact List.Subset.refl _
  | pending => exact List.Subset.refl _

/-- A request for a handle that is not listed as inactive. -/
theorem Follows.request {agpsType : AGpsExtType} {mask : LocApnTypeMask} (hf : Follows last sm)
    (hact : ∀ s ∈ sm.subscriberList, s.connHandle = h → s.isInactive = false) :
    Follows (Function.update last h (some false)) (sm.request h agpsType mask).1 := by
  obtain ⟨-, -, -, hmem⟩ := request_spec sm h agpsType mask
  intro s hs
  by_cases hh : s.connHandle = h
  · rw [hh, Function.update_self]
    rcases hmem s hs with hs | rfl
    · rw [hact s hs hh]
    · rfl
  · rw [Function.update_of_ne hh]
    refine hf s ((hmem s hs).resolve_right ?_)
    rintro rfl
    exact hh rfl

theorem Follows.unsubscribe (hf : Follows last sm) (ha : Agrees sm) :
    Follows (Function.update last h (some true)) (sm.processAgpsEventUnsubscribe h).1 := by
  intro s hs
  by_cases hst : sm.state = .released
  · have hnil : (sm.processAgpsEventUnsubscribe h).1.subscriberList = [] := by
      simp only [AgpsStateMachine.processAgpsEventUnsubscribe, hst, ha.released hst]
    rw [hnil] at hs
    cases hs
  · rw [subscriberList_unsubscribe hst] at hs
    rcases mem_leave ha.nodup hs with ⟨hh, hs⟩ | ⟨hh, hin, -⟩
    · rw [Function.update_of_ne hh]
      exact hf s hs
    · rw [hh, Function.update_self, hin]

/-- The subscribers that stay keep their flags. -/
theorem Follows.of_subset (hf : Follows last sm) (hs : sm'.subscriberList ⊆ sm.subscriberList) :
    Follows last sm' := fun s hs' ↦ hf s (hs hs')

/-- A subscriber that does not leave stays. -/
theorem mem_leave_of_ne (hn : sm.handles.Nodup) {s : AgpsSubscriber} (hs : s ∈ sm.subscriberList)
    (hne : s.connHandle ≠ h') : s ∈ (sm.leave h').1.subscriberList := by
  rcases leave_cases sm h' with ⟨hl, -⟩ | hl | hl
  · rwa [hl]
  · rw [hl, deactivate_eq_map hn]
    exact mem_map.mpr ⟨s, hs, if_neg hne⟩
  · rw [hl]
    exact mem_filter.mpr ⟨hs, by simpa using hne⟩

theorem Waiting.unsubscribe (hw : Waiting sm h) (hn : sm.handles.Nodup) (hne : h ≠ h') :
    Waiting (sm.processAgpsEventUnsubscribe h').1 h := by
  obtain ⟨hst, s, hs, rfl, hact⟩ := hw
  have hmem := mem_leave_of_ne hn hs hne
  have hempty : (sm.leave h').1.subscriberList.isEmpty = false := by
    rw [isEmpty_eq_false_iff]
    exact ne_nil_of_mem hmem
  have hany : (sm.leave h').1.anyActiveSubscribers = true :=
    anyActiveSubscribers_iff.mpr ⟨s, hmem, hact⟩
  have hleft : (sm.processAgpsEventUnsubscribe h').1 = (sm.leave h').1 := by
    rw [AgpsStateMachine.processAgpsEventUnsubscribe]
    rcases hst with hst | hst
    · simp only [hst, AgpsStateMachine.releaseUnwanted, hempty, hany]
      rfl
    · simp only [hst, hempty]
      rfl
  rw [hleft]
  exact ⟨by rwa [leave_state], s, hmem, rfl, hact⟩

theorem Waiting.finishRelease (hw : Waiting sm h) : Waiting sm.finishRelease.1 h := by
  obtain ⟨-, s, hs, hh, hact⟩ := hw
  rcases finishRelease_cases sm with ⟨-, hrel⟩ | ⟨hall, -⟩
  · rw [hrel]
    exact ⟨Or.inl rfl, s, mem_filter.mpr ⟨hs, by simpa using hact⟩, hh, hact⟩
  · exact absurd (hall s hs) (by rw [hact]; decide)

/-- Everyone who waits is told when the connection is granted. -/
theorem Waiting.granted (hw : Waiting sm h) :
    Waiting sm.processAgpsEventGranted.1 h ∨
      ∃ c ∈ sm.processAgpsEventGranted.2, Answers h (.out c) := by
  obtain ⟨hst, s, hs, hh, hact⟩ := hw
  rw [AgpsStateMachine.processAgpsEventGranted]
  rcases hst with hst | hst
  · rw [hst]
    refine Or.inr ⟨_, mem_map_of_mem (mem_filter.mpr ⟨hs, ?_⟩), hh⟩
    simp [AgpsNotificationType.concerns, hact]
  · rw [hst]
    exact Or.inl ⟨Or.inr hst, s, hs, hh, hact⟩

theorem Waiting.denied (hw : Waiting sm h) :
    Waiting sm.processAgpsEventDenied.1 h ∨
      ∃ c ∈ sm.processAgpsEventDenied.2, Answers h (.out c) := by
  have hfin := hw.finishRelease
  obtain ⟨hst, s, hs, hh, -⟩ := hw
  rw [AgpsStateMachine.processAgpsEventDenied]
  rcases hst with hst | hst
  · rw [hst]
    simp only [notifyAll_delete]
    exact Or.inr ⟨_, mem_map_of_mem hs, hh⟩
  · rw [hst]
    exact Or.inl hfin

theorem Waiting.released (hw : Waiting sm h) : Waiting sm.processAgpsEventReleased.1 h := by
  have hfin := hw.finishRelease
  rw [AgpsStateMachine.processAgpsEventReleased]
  rcases hw.1 with hst | hst
  · rw [hst]
    exact hw
  · rw [hst]
    exact hfin

/-- A request for a handle that is not listed as inactive waits, or is answered at once. -/
theorem waiting_request {agpsType : AGpsExtType} {mask : LocApnTypeMask}
    (hw : Waiting sm h ∨ h = h')
    (hact : ∀ s ∈ sm.subscriberList, s.connHandle = h' → s.isInactive = false) :
    Waiting (sm.request h' agpsType mask).1 h ∨
      ∃ c ∈ (sm.request h' agpsType mask).2, Answers h (.out c) := by
  set sm₁ := (sm.setType agpsType).setApnTypeMask mask with hsm₁
  set current : AgpsSubscriber := ⟨h', true, false, mask⟩ with hcurrent
  -- whoever waited is still listed, and so is the handle that asks
  have hlisted : ∃ s ∈ (sm₁.addSubscriber current).subscriberList,
      s.connHandle = h ∧ s.isInactive = false := by
    rcases hw with ⟨-, s, hs, hh, hs'⟩ | rfl
    · exact ⟨s, subset_addSubscriber sm₁ current hs, hh, hs'⟩
    · rcases addSubscriber_cases sm₁ current with ⟨hmem, hadd⟩ | ⟨-, hadd⟩
      · obtain ⟨s, hs, hh⟩ := mem_map.mp hmem
        rw [hadd]
        exact ⟨s, hs, hh, hact s hs hh⟩
      · rw [hadd]
        exact ⟨current, by simp, rfl, rfl⟩
  have hst := state_addSubscriber sm₁ current
  change Waiting (sm₁.processAgpsEventSubscribe current).1 h ∨
    ∃ c ∈ (sm₁.processAgpsEventSubscribe current).2, Answers h (.out c)
  rw [AgpsStateMachine.processAgpsEventSubscribe]
  cases hstate : sm₁.state with
  | released => exact Or.inl ⟨Or.inl rfl, hlisted⟩
  | pending => exact Or.inl ⟨Or.inl (hst.trans hstate), hlisted⟩
  | releasing => exact Or.inl ⟨Or.inr (hst.trans hstate), hlisted⟩
  | acquired =>
    rcases hw with ⟨hst' | hst', -⟩ | rfl
    · exact absurd (hst'.symm.trans hstate) (by decide)
    · exact absurd (hst'.symm.trans hstate) (by decide)
    · exact Or.inr ⟨_, mem_singleton_self _, rfl⟩

end Steps

/-! ## Runs -/

/-- A handle is requested only while no machine lists it as inactive, and released only if not both
machines list it, the second one as active. The modem does not restart. -/
def InTurn (m : AgpsManager) : ManagerCall → Prop
  | .requestATL _ h _ _ =>
    m.all fun sm ↦ sm.subscriberList.all fun s ↦ s.connHandle != h || !s.isInactive
  | .releaseATL h =>
    ∀ sm ∈ m.agnssNif, h ∈ sm.handles → ∀ sm' ∈ m.internetNif, ∀ s ∈ sm'.subscriberList,
      s.connHandle = h → s.isInactive = true
  | .handleModemSSR => False
  | _ => True

instance (m : AgpsManager) (e : ManagerCall) : Decidable (InTurn m e) :=
  match e with
  | .requestATL _ h _ _ => inferInstanceAs (Decidable (_ = _))
  | .releaseATL h => inferInstanceAs (Decidable (∀ sm ∈ m.agnssNif, _))
  | .handleModemSSR => isFalse id
  | .reportAtlOpenSuccess .. | .reportAtlOpenFailed _ | .reportAtlClosed _ => isTrue trivial

section Runs

variable {m : AgpsManager} {nif : Nif} {sm sm' : AgpsStateMachine} {e : ManagerCall}
  {calls : List Call} {items : List (Item ManagerCall Call)} {h : ℤ}

theorem isSome_getSubscriber_iff : (sm.getSubscriber h).isSome ↔ h ∈ sm.handles := by
  simp [AgpsStateMachine.getSubscriber, AgpsStateMachine.handles, find?_isSome]

/-- `releaseATL` passes over a machine that lists the handle only for the other one. -/
theorem agnss_of_findSubscriber_ne (hsm : m.getAgpsStateMachine nif = some sm)
    (hh : h ∈ sm.handles) (hne : m.findSubscriber h ≠ some (nif, sm)) :
    m.internetNif = some sm ∧ ∃ sm₁, m.agnssNif = some sm₁ ∧ h ∈ sm₁.handles := by
  have hsome := isSome_getSubscriber_iff.mpr hh
  cases nif with
  | agnss =>
    change m.agnssNif = some sm at hsm
    rw [AgpsManager.findSubscriber, hsm] at hne
    exact absurd (if_pos hsome) hne
  | internet =>
    change m.internetNif = some sm at hsm
    have hint : AgpsManager.findSubscriber.findInternet m h = some (.internet, sm) := by
      rw [AgpsManager.findSubscriber.findInternet, hsm]
      exact if_pos hsome
    refine ⟨hsm, ?_⟩
    rw [AgpsManager.findSubscriber, hint] at hne
    cases hagnss : m.agnssNif with
    | none =>
      rw [hagnss] at hne
      exact absurd rfl hne
    | some sm₁ =>
      refine ⟨sm₁, rfl, isSome_getSubscriber_iff.mp ?_⟩
      by_contra hnot
      rw [hagnss] at hne
      exact absurd (if_neg hnot) hne

/-- A request for, or a release of, one handle changes what that handle asked for last. -/
theorem latest_leaves_update {b : Bool} (he : ∀ h', leaves h' (.event e)
    = if h = h' then some b else none) :
    (fun h ↦ latest (leaves h) (items ++ entry e calls))
      = Function.update (fun h ↦ latest (leaves h) items) h (some b) := by
  funext h'
  rw [latest_append_entry (fun _ ↦ rfl), he]
  by_cases hh : h = h'
  · rw [if_pos hh, Option.some_or, hh, Function.update_self]
  · rw [if_neg hh, Option.none_or, Function.update_of_ne (Ne.symm hh)]

theorem latest_leaves_same (he : ∀ h, leaves h (.event e) = none) :
    (fun h ↦ latest (leaves h) (items ++ entry e calls)) = fun h ↦ latest (leaves h) items := by
  funext h
  rw [latest_append_entry (fun _ ↦ rfl), he, Option.none_or]

private theorem active_of_inTurn {p : UInt32} {t : AGpsExtType} {k : LocApnTypeMask}
    (hg : InTurn m (.requestATL p h t k)) (hsm : m.getAgpsStateMachine nif = some sm) :
    ∀ s ∈ sm.subscriberList, s.connHandle = h → s.isInactive = false := by
  intro s hs hh
  have hall := all_eq_true.mp (AgpsManager.of_all hg hsm) s hs
  simpa [hh] using hall

/-- A change of what one handle asked for last that its subscribers have gone along with already. -/
private theorem follows_update {last : ℤ → Option Bool} {b : Bool} (hf : Follows last sm)
    (hb : ∀ s ∈ sm.subscriberList, s.connHandle = h → s.isInactive = b) :
    Follows (Function.update last h (some b)) sm := by
  intro s hs
  by_cases hh : s.connHandle = h
  · rw [hh, Function.update_self, hb s hs hh]
  · rw [Function.update_of_ne hh]
    exact hf s hs

theorem follows_step (hf : Follows (fun h ↦ latest (leaves h) items) sm) (ha : Agrees sm)
    (hs : MachineStep m nif sm e sm' calls) (hsm : m.getAgpsStateMachine nif = some sm)
    (hg : InTurn m e) : Follows (fun h ↦ latest (leaves h) (items ++ entry e calls)) sm' := by
  cases hs with
  | other ht hssr hfind =>
    cases e with
    | requestATL p h t k =>
      rw [latest_leaves_update fun _ ↦ rfl]
      exact follows_update hf (active_of_inTurn hg hsm)
    | releaseATL h =>
      rw [latest_leaves_update fun _ ↦ rfl]
      refine follows_update hf fun s hs hh ↦ ?_
      -- a machine that lists the handle is passed over only for the SUPL machine
      have hmem : h ∈ sm.handles := hh ▸ mem_map_of_mem hs
      obtain ⟨hint, sm₁, hagnss, hmem₁⟩ := agnss_of_findSubscriber_ne hsm hmem (hfind h rfl)
      exact hg sm₁ hagnss hmem₁ sm hint s hs hh
    | handleModemSSR => exact hg.elim
    | reportAtlOpenSuccess | reportAtlOpenFailed | reportAtlClosed => rw [latest_leaves_same fun _ ↦ rfl]; exact hf
  | request p h t t' k k' =>
    rw [latest_leaves_update fun _ ↦ rfl]
    exact hf.request (active_of_inTurn hg hsm)
  | release h =>
    rw [latest_leaves_update fun _ ↦ rfl]
    exact hf.unsubscribe ha
  | granted t apn len bearer =>
    rw [latest_leaves_same fun _ ↦ rfl]
    refine hf.of_subset ?_
    rw [subscriberList_granted, setAPN_subscriberList]
    exact List.Subset.refl _
  | denied =>
    rw [latest_leaves_same fun _ ↦ rfl]
    exact hf.of_subset subset_denied
  | released =>
    rw [latest_leaves_same fun _ ↦ rfl]
    exact hf.of_subset subset_released
  | ssr => exact hg.elim

/-- A handle that waits, or asks now, waits after the step or is answered by it. -/
theorem waiting_step (hw : Waiting sm h ∨ IsRequestOf nif h (.event e)) (ha : Agrees sm)
    (hs : MachineStep m nif sm e sm' calls) (hsm : m.getAgpsStateMachine nif = some sm)
    (hg : InTurn m e) :
    Waiting sm' h ∨ (∃ c ∈ calls, Answers h (.out c)) ∨ e = .releaseATL h := by
  cases hs with
  | other ht hssr hfind =>
    refine Or.inl (hw.resolve_right fun hreq ↦ ht ?_)
    cases e with
    | requestATL => exact congrArg some hreq.2
    | _ => exact hreq.elim
  | request p h' t t' k k' =>
    have hw' : Waiting sm h ∨ h = h' := hw.imp_right fun hreq ↦ hreq.1.symm
    exact (waiting_request hw' (active_of_inTurn hg hsm)).imp_right Or.inl
  | release h' =>
    by_cases hh : h = h'
    · exact Or.inr (Or.inr (by rw [hh]))
    · exact Or.inl ((hw.resolve_right id).unsubscribe ha.nodup hh)
  | granted t apn len bearer =>
    obtain ⟨hst, hlisted⟩ := hw.resolve_right id
    have hset : Waiting ((sm.setBearer bearer).setAPN apn (len % 2 ^ 32).toNat) h := by
      refine ⟨?_, ?_⟩
      · rwa [setAPN_state]
      · rwa [setAPN_subscriberList]
    exact hset.granted.imp_right Or.inl
  | denied => exact (hw.resolve_right id).denied.imp_right Or.inl
  | released => exact Or.inl (hw.resolve_right id).released
  | ssr => exact hg.elim

theorem answered_step (hans : FollowedBy (IsRequestOf nif h) (Answers h) items ∨ Waiting sm h)
    (ha : Agrees sm) (hs : MachineStep m nif sm e sm' calls)
    (hsm : m.getAgpsStateMachine nif = some sm) (hg : InTurn m e) :
    FollowedBy (IsRequestOf nif h) (Answers h) (items ++ entry e calls) ∨ Waiting sm' h := by
  have houts : ∀ x ∈ (calls.map .out : List (Item ManagerCall Call)), ¬IsRequestOf nif h x := by
    intro x hx
    obtain ⟨c, -, rfl⟩ := mem_map.mp hx
    exact id
  by_cases hw : Waiting sm h ∨ IsRequestOf nif h (.event e)
  -- a request that waits now and one that is made now end in the same three ways
  · rcases waiting_step hw ha hs hsm hg with hw' | ⟨c, hc, hansw⟩ | rfl
    · exact Or.inr hw'
    · left
      rw [append_entry]
      refine followedBy_append.mpr ⟨Or.inr ⟨.out c, mem_map_of_mem hc, hansw⟩, ?_⟩
      exact followedBy_of_forall_not houts
    · left
      refine followedBy_append.mpr ⟨Or.inr ⟨_, mem_cons_self .., rfl⟩, ?_⟩
      refine followedBy_of_forall_not fun x hx ↦ ?_
      rcases mem_cons.mp hx with rfl | hx
      · exact id
      · exact houts x hx
  · obtain ⟨hnw, hnr⟩ := not_or.mp hw
    refine Or.inl ((hans.resolve_right hnw).append fun x hx ↦ ?_)
    rcases mem_cons.mp hx with rfl | hx
    · exact hnr
    · exact houts x hx

end Runs

/-- **Subscriptions follow the last request.** In every run in which the handles take turns, each
subscriber is inactive just when its handle was released last, and whenever a machine is released,
every request so far was followed by an open-status call for its handle or by its release. -/
theorem subscriptions_of_run {m₀ m : AgpsManager} {hist : List (Item ManagerCall (Nif × Call))}
    {nif : Nif} {sm : AgpsStateMachine} (h₀ : m₀.Initial)
    (hr : Run AgpsManager.step InTurn m₀ hist m) (hsm : m.getAgpsStateMachine nif = some sm) :
    (∀ s ∈ sm.subscriberList,
        (s.isInactive = true ↔ latest (leaves s.connHandle) (view nif hist) = some true)) ∧
      (sm.state = .released → ∀ h,
        FollowedBy (IsRequestOf nif h) (Answers h) (view nif hist)) := by
  have hinv : ∀ nif sm, m.getAgpsStateMachine nif = some sm → Agrees sm ∧
      Follows (fun h ↦ latest (leaves h) (view nif hist)) sm ∧
      ∀ h, FollowedBy (IsRequestOf nif h) (Answers h) (view nif hist) ∨ Waiting sm h := by
    refine hr.invariant (I := fun hist m ↦ ∀ nif sm, m.getAgpsStateMachine nif = some sm →
      Agrees sm ∧ Follows (fun h ↦ latest (leaves h) (view nif hist)) sm ∧
      ∀ h, FollowedBy (IsRequestOf nif h) (Answers h) (view nif hist) ∨ Waiting sm h) ?_ ?_
    · intro nif sm hsm
      obtain ⟨agpsType, mask, rfl⟩ := h₀ nif sm hsm
      exact ⟨Agrees.create agpsType mask, by simp [Follows, AgpsStateMachine.create],
        fun h ↦ Or.inl (followedBy_of_forall_not (by simp [view]))⟩
    · intro hist m e m' outs ih hg hstep nif sm' hsm'
      obtain ⟨sm, hsm, hms⟩ := AgpsManager.machineStep_of_step hstep hsm'
      obtain ⟨ha, hf, hans⟩ := ih nif sm hsm
      rw [view_append_entry]
      refine ⟨ha.step hms fun hssr ↦ ?_, follows_step hf ha hms hsm hg, fun h ↦
        answered_step (hans h) ha hms hsm hg⟩
      rw [hssr] at hg
      exact hg.elim
  obtain ⟨ha, hf, hans⟩ := hinv nif sm hsm
  refine ⟨fun s hs ↦ ?_, fun hst h ↦ (hans h).resolve_right ?_⟩
  · have hlast : latest (leaves s.connHandle) (view nif hist) = some s.isInactive := hf s hs
    rw [hlast, Option.some_inj]
  · rintro ⟨-, s, hs, -⟩
    rw [ha.released hst] at hs
    cases hs

/-- A request that is granted, released and closed again. -/
theorem subscriptions_of_run_closed : ∃ hist m sm,
    Run AgpsManager.step InTurn sampleManager hist m ∧
      m.getAgpsStateMachine .agnss = some sm ∧ sm.state = .released ∧
      FollowedBy (IsRequestOf .agnss 7) (Answers 7) (view .agnss hist) := by
  obtain ⟨hist, m, hr, hst⟩ := Run.exists_of_runEvents AgpsManager.step InTurn sampleManager
    [.requestATL 1 7 locAgpsTypeSupl 16, .reportAtlOpenSuccess locAgpsTypeSupl none 0 1,
      .releaseATL 7, .reportAtlClosed locAgpsTypeSupl]
    (fun _ m ↦ m.isIn .agnss .released) (by decide)
  obtain ⟨sm, hsm, hst⟩ := AgpsManager.exists_of_isIn hst
  exact ⟨hist, m, sm, hr, hsm, hst, (subscriptions_of_run initial_sampleManager hr hsm).2 hst 7⟩

/-- A request made again while its release is in progress is dropped: the machine is released and
nobody was told. -/
theorem not_followedBy_dropped : ∃ hist m sm,
    Run AgpsManager.step (fun _ _ ↦ True) sampleManager hist m ∧
      m.getAgpsStateMachine .agnss = some sm ∧ sm.state = .released ∧
      ¬FollowedBy (IsRequestOf .agnss 7) (Answers 7) (view .agnss hist) := by
  obtain ⟨hist, m, hr, hin, hview⟩ := Run.exists_of_runEvents AgpsManager.step (fun _ _ ↦ True)
    sampleManager
    [.requestATL 1 7 locAgpsTypeSupl 16, .releaseATL 7, .requestATL 1 7 locAgpsTypeSupl 16,
      .reportAtlClosed locAgpsTypeSupl]
    (fun hist m ↦ m.isIn .agnss .released = true ∧ view .agnss hist
      = [.event (.requestATL 1 7 locAgpsTypeSupl 16), .out (.requestDataConn locAgpsTypeSupl 16),
        .event (.releaseATL 7), .out (.releaseDataConn locAgpsTypeSupl 16),
        .event (.requestATL 1 7 locAgpsTypeSupl 16), .event (.reportAtlClosed locAgpsTypeSupl),
        .out (.closeStatus 7 true)]) (by decide)
  obtain ⟨sm, hsm, hst⟩ := AgpsManager.exists_of_isIn hin
  refine ⟨hist, m, sm, hr, hsm, hst, fun hf ↦ ?_⟩
  obtain ⟨y, hy, hans⟩ := hf [_, _, _, _] _ [_, _] hview ⟨rfl, by decide⟩
  rcases mem_cons.mp hy with rfl | hy
  · exact hans
  · obtain rfl := mem_singleton.mp hy
    exact hans

end MataDevice.Agps
