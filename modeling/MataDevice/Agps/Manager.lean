import MataDevice.Agps.StateMachine
import MataDevice.Lib.History

/-!
# The AGPS manager

`AgpsManager` owns two state machines and routes requests and events to them: by the type they
carry, or, for a release, by looking for the handle in one machine after the other. A machine is
created only if the adapter asks for it, so that either of them can be missing.

`AgpsManager.step` is one call of the manager. A report for a machine that is missing dereferences a
null pointer and has no result. `MachineStep` says what one call does to one of the two machines, in
terms of the state machine alone; every property of a machine along a run is proved over its cases.
-/

namespace MataDevice.Agps

/-- The two machines, by their data connections. -/
inductive Nif
  | agnss
  | internet
  deriving DecidableEq, Repr

structure AgpsManager where
  agnssNif : Option AgpsStateMachine
  internetNif : Option AgpsStateMachine
  deriving DecidableEq, Repr

/-- A call of the manager. A request comes with the value that
`USE_EMERGENCY_PDN_FOR_EMERGENCY_SUPL` has at that moment. -/
inductive ManagerCall
  | requestATL (useEmergencyPdn : UInt32) (connHandle : ℤ) (agpsType : AGpsExtType)
    (apnTypeMask : LocApnTypeMask)
  | releaseATL (connHandle : ℤ)
  | reportAtlOpenSuccess (agpsType : AGpsExtType) (apnName : Option (List UInt8)) (apnLen : ℤ)
    (bearerType : AGpsBearerType)
  | reportAtlOpenFailed (agpsType : AGpsExtType)
  | reportAtlClosed (agpsType : AGpsExtType)
  | handleModemSSR
  deriving DecidableEq, Repr

/-- The machine `getAgpsStateMachine` selects for a type. -/
def nifOf (agpsType : AGpsExtType) : Nif :=
  if agpsType = locAgpsTypeInvalid ∨ agpsType = locAgpsTypeSupl ∨ agpsType = locAgpsTypeSuplEs then
    .agnss
  else .internet

/-- How `requestATL` adjusts an emergency request: without an emergency PDN it is an ordinary SUPL
request. -/
def adjust (useEmergencyPdn : UInt32) (agpsType : AGpsExtType) (apnTypeMask : LocApnTypeMask) :
    AGpsExtType × LocApnTypeMask :=
  if useEmergencyPdn = 0 ∧ agpsType = locAgpsTypeSuplEs then
    (locAgpsTypeSupl, apnTypeMask &&& ~~~locApnTypeMaskEmergency ||| locApnTypeMaskSupl)
  else (agpsType, apnTypeMask)

def AgpsStateMachine.request (sm : AgpsStateMachine) (connHandle : ℤ) (agpsType : AGpsExtType)
    (apnTypeMask : LocApnTypeMask) : AgpsStateMachine × List Call :=
  ((sm.setType agpsType).setApnTypeMask apnTypeMask).processAgpsEvent
    (.subscribe ⟨connHandle, true, false, apnTypeMask⟩)

namespace AgpsManager

variable (m : AgpsManager)

/-- `getAgpsStateMachine`. -/
def getAgpsStateMachine : Nif → Option AgpsStateMachine
  | .agnss => m.agnssNif
  | .internet => m.internetNif

/-- Put a machine and the calls it made back into the manager. -/
def update (nif : Nif) (out : AgpsStateMachine × List Call) : AgpsManager × List (Nif × Call) :=
  (match nif with
    | .agnss => { m with agnssNif := some out.1 }
    | .internet => { m with internetNif := some out.1 },
    out.2.map fun c ↦ (nif, c))

def requestATL (useEmergencyPdn : UInt32) (connHandle : ℤ) (agpsType : AGpsExtType)
    (apnTypeMask : LocApnTypeMask) : AgpsManager × List (Nif × Call) :=
  let (agpsType, apnTypeMask) := adjust useEmergencyPdn agpsType apnTypeMask
  match m.getAgpsStateMachine (nifOf agpsType) with
  | none =>
    (m, [(nifOf agpsType,
      .openStatus connHandle false none 0 agpsApnBearerInvalid agpsType apnTypeMask)])
  | some sm => m.update (nifOf agpsType) (sm.request connHandle agpsType apnTypeMask)

/-- The machine that lists a handle, looked for in this order. -/
def findSubscriber (connHandle : ℤ) : Option (Nif × AgpsStateMachine) :=
  match m.agnssNif with
  | some sm =>
    if (sm.getSubscriber connHandle).isSome then some (.agnss, sm) else findInternet
  | none => findInternet
where
  findInternet : Option (Nif × AgpsStateMachine) :=
    match m.internetNif with
    | some sm => if (sm.getSubscriber connHandle).isSome then some (.internet, sm) else none
    | none => none

def releaseATL (connHandle : ℤ) : AgpsManager × List (Nif × Call) :=
  match m.findSubscriber connHandle with
  | none => (m, [])
  | some (nif, sm) => m.update nif (sm.processAgpsEvent (.unsubscribe connHandle))

def reportAtlOpenSuccess (agpsType : AGpsExtType) (apnName : Option (List UInt8)) (apnLen : ℤ)
    (bearerType : AGpsBearerType) : Option (AgpsManager × List (Nif × Call)) :=
  (m.getAgpsStateMachine (nifOf agpsType)).map fun sm ↦
    m.update (nifOf agpsType)
      (((sm.setBearer bearerType).setAPN apnName (apnLen % 2 ^ 32).toNat).processAgpsEvent .granted)

def reportAtlOpenFailed (agpsType : AGpsExtType) : Option (AgpsManager × List (Nif × Call)) :=
  (m.getAgpsStateMachine (nifOf agpsType)).map fun sm ↦
    m.update (nifOf agpsType) (sm.processAgpsEvent .denied)

def reportAtlClosed (agpsType : AGpsExtType) : Option (AgpsManager × List (Nif × Call)) :=
  (m.getAgpsStateMachine (nifOf agpsType)).map fun sm ↦
    m.update (nifOf agpsType) (sm.processAgpsEvent .released)

def handleModemSSR : AgpsManager where
  agnssNif := m.agnssNif.map AgpsStateMachine.dropAllSubscribers
  internetNif := m.internetNif.map AgpsStateMachine.dropAllSubscribers

/-- One call of the manager. -/
def step : ManagerCall → Option (AgpsManager × List (Nif × Call))
  | .requestATL useEmergencyPdn connHandle agpsType apnTypeMask =>
    some (m.requestATL useEmergencyPdn connHandle agpsType apnTypeMask)
  | .releaseATL connHandle => some (m.releaseATL connHandle)
  | .reportAtlOpenSuccess agpsType apnName apnLen bearerType =>
    m.reportAtlOpenSuccess agpsType apnName apnLen bearerType
  | .reportAtlOpenFailed agpsType => m.reportAtlOpenFailed agpsType
  | .reportAtlClosed agpsType => m.reportAtlClosed agpsType
  | .handleModemSSR => some (m.handleModemSSR, [])

/-- `createAgpsStateMachines`, for a device that is capable of MSA or MSB or not. The masks stand
for what the new machines find in their memory. -/
def createAgpsStateMachines (agpsCapable : Bool) (atlType : UInt32) (mask mask' : LocApnTypeMask) :
    AgpsManager where
  internetNif :=
    if m.internetNif.isNone && atlType &&& 4 != 0 then some (.create locAgpsTypeWwanAny mask)
    else m.internetNif
  agnssNif :=
    if agpsCapable && m.agnssNif.isNone && atlType &&& 1 != 0 && atlType &&& 2 != 0 then
      some (.create locAgpsTypeSupl mask')
    else m.agnssNif

/-- A condition on every machine there is. -/
def all (p : AgpsStateMachine → Bool) : Bool := m.agnssNif.all p && m.internetNif.all p

/-- A manager none of whose machines has processed anything yet. -/
def Initial : Prop :=
  ∀ nif sm, m.getAgpsStateMachine nif = some sm → ∃ agpsType mask, sm = .create agpsType mask

end AgpsManager

/-- The machine a call is addressed to by the type it carries. -/
def ManagerCall.target : ManagerCall → Option Nif
  | .requestATL useEmergencyPdn _ agpsType apnTypeMask =>
    some (nifOf (adjust useEmergencyPdn agpsType apnTypeMask).1)
  | .reportAtlOpenSuccess agpsType _ _ _ => some (nifOf agpsType)
  | .reportAtlOpenFailed agpsType => some (nifOf agpsType)
  | .reportAtlClosed agpsType => some (nifOf agpsType)
  | .releaseATL _ => none
  | .handleModemSSR => none

/-! ## What a call does to one machine -/

/-- A call takes the machine `nif` from `sm` to `sm'` and the machine makes these calls. -/
inductive MachineStep (m : AgpsManager) (nif : Nif) (sm : AgpsStateMachine) :
    ManagerCall → AgpsStateMachine → List Call → Prop
  | other {e : ManagerCall} : e.target ≠ some nif → e ≠ .handleModemSSR →
      (∀ connHandle, e = .releaseATL connHandle → m.findSubscriber connHandle ≠ some (nif, sm)) →
      MachineStep m nif sm e sm []
  | request (useEmergencyPdn : UInt32) (connHandle : ℤ) (agpsType agpsType' : AGpsExtType)
    (mask mask' : LocApnTypeMask) :
    adjust useEmergencyPdn agpsType mask = (agpsType', mask') → nifOf agpsType' = nif →
      MachineStep m nif sm (.requestATL useEmergencyPdn connHandle agpsType mask)
        (sm.request connHandle agpsType' mask').1 (sm.request connHandle agpsType' mask').2
  | release (connHandle : ℤ) : m.findSubscriber connHandle = some (nif, sm) →
      MachineStep m nif sm (.releaseATL connHandle)
        (sm.processAgpsEventUnsubscribe connHandle).1 (sm.processAgpsEventUnsubscribe connHandle).2
  | granted (agpsType : AGpsExtType) (apn : Option (List UInt8)) (len : ℤ)
    (bearer : AGpsBearerType) :
    nifOf agpsType = nif →
      MachineStep m nif sm (.reportAtlOpenSuccess agpsType apn len bearer)
        ((sm.setBearer bearer).setAPN apn (len % 2 ^ 32).toNat).processAgpsEventGranted.1
        ((sm.setBearer bearer).setAPN apn (len % 2 ^ 32).toNat).processAgpsEventGranted.2
  | denied (agpsType : AGpsExtType) : nifOf agpsType = nif →
      MachineStep m nif sm (.reportAtlOpenFailed agpsType) sm.processAgpsEventDenied.1
        sm.processAgpsEventDenied.2
  | released (agpsType : AGpsExtType) : nifOf agpsType = nif →
      MachineStep m nif sm (.reportAtlClosed agpsType) sm.processAgpsEventReleased.1
        sm.processAgpsEventReleased.2
  | ssr : MachineStep m nif sm .handleModemSSR sm.dropAllSubscribers []

/-- The calls that one of the machines made. -/
def callsOf (nif : Nif) (outs : List (Nif × Call)) : List Call :=
  outs.filterMap fun o ↦ if o.1 = nif then some o.2 else none

/-- A history as one machine sees it: all calls of the manager, and the calls of that machine. -/
def view (nif : Nif) (hist : List (Item ManagerCall (Nif × Call))) : List (Item ManagerCall Call) :=
  hist.filterMap fun
    | .event e => some (.event e)
    | .out o => if o.1 = nif then some (.out o.2) else none

theorem view_append_entry (nif : Nif) (hist : List (Item ManagerCall (Nif × Call)))
    (e : ManagerCall) (outs : List (Nif × Call)) :
    view nif (hist ++ entry e outs) = view nif hist ++ entry e (callsOf nif outs) := by
  rw [view, List.filterMap_append, ← view, entry, entry, List.filterMap_cons, List.filterMap_map,
    callsOf, List.map_filterMap]
  simp only [List.append_cancel_left_eq, List.cons.injEq, true_and]
  refine List.filterMap_congr fun o _ ↦ ?_
  simp only [Function.comp_apply]
  split_ifs <;> rfl

theorem callsOf_map_self (nif : Nif) (calls : List Call) :
    callsOf nif (calls.map fun c ↦ (nif, c)) = calls := by
  simp [callsOf, List.filterMap_map]

theorem callsOf_map_ne {nif nif' : Nif} (h : nif' ≠ nif) (calls : List Call) :
    callsOf nif (calls.map fun c ↦ (nif', c)) = [] := by
  simp [callsOf, h]

namespace AgpsManager

variable {m m' : AgpsManager} {nif nif' : Nif} {sm : AgpsStateMachine}

theorem of_all {p : AgpsStateMachine → Bool} (h : m.all p = true)
    (hsm : m.getAgpsStateMachine nif = some sm) : p sm = true := by
  rw [all, Bool.and_eq_true] at h
  cases nif with
  | agnss =>
    change m.agnssNif = some sm at hsm
    rw [hsm] at h
    exact h.1
  | internet =>
    change m.internetNif = some sm at hsm
    rw [hsm] at h
    exact h.2

theorem get_update_self (out : AgpsStateMachine × List Call) :
    (m.update nif out).1.getAgpsStateMachine nif = some out.1 := by
  cases nif <;> rfl

theorem get_update_ne (out : AgpsStateMachine × List Call) (h : nif' ≠ nif) :
    (m.update nif' out).1.getAgpsStateMachine nif = m.getAgpsStateMachine nif := by
  cases nif <;> cases nif' <;> first | rfl | exact absurd rfl h

theorem get_of_findSubscriber {connHandle : ℤ} (h : m.findSubscriber connHandle = some (nif, sm)) :
    m.getAgpsStateMachine nif = some sm ∧ (sm.getSubscriber connHandle).isSome := by
  have hint : ∀ {n s}, findSubscriber.findInternet m connHandle = some (n, s) →
      m.getAgpsStateMachine n = some s ∧ (s.getSubscriber connHandle).isSome := by
    intro n s hn
    rw [findSubscriber.findInternet] at hn
    split at hn
    · split at hn
      · cases hn
        exact ⟨‹_›, ‹_›⟩
      · cases hn
    · cases hn
  rw [findSubscriber] at h
  split at h
  · split at h
    · cases h
      exact ⟨‹_›, ‹_›⟩
    · exact hint h
  · exact hint h

variable {outs : List (Nif × Call)}

/-- A call that runs one machine and puts it back. -/
private theorem update_machine {e : ManagerCall} {sm₁ : AgpsStateMachine}
    {out : AgpsStateMachine × List Call}
    (hout : m.update nif' out = (m', outs)) (hsm : m.getAgpsStateMachine nif = some sm)
    (hsm₁ : m.getAgpsStateMachine nif' = some sm₁)
    (hself : nif' = nif → sm₁ = sm → MachineStep m nif sm e out.1 out.2)
    (hother : nif' ≠ nif → MachineStep m nif sm e sm []) :
    ∃ sm', m'.getAgpsStateMachine nif = some sm' ∧
      MachineStep m nif sm e sm' (callsOf nif outs) := by
  obtain ⟨rfl, rfl⟩ : (m.update nif' out).1 = m' ∧ out.2.map (fun c ↦ (nif', c)) = outs :=
    Prod.mk.inj hout
  by_cases hne : nif' = nif
  · subst hne
    refine ⟨out.1, get_update_self out, ?_⟩
    rw [callsOf_map_self]
    exact hself rfl (Option.some_inj.mp (hsm₁.symm.trans hsm))
  · refine ⟨sm, (get_update_ne out hne).trans hsm, ?_⟩
    rw [callsOf_map_ne hne]
    exact hother hne

variable {e : ManagerCall}

/-- Every call of the manager takes each machine through one `MachineStep`. -/
theorem step_machine (h : m.step e = some (m', outs)) (hsm : m.getAgpsStateMachine nif = some sm) :
    ∃ sm', m'.getAgpsStateMachine nif = some sm' ∧
      MachineStep m nif sm e sm' (callsOf nif outs) := by
  cases e with
  | requestATL useEmergencyPdn connHandle agpsType mask =>
    obtain ⟨agpsType', mask', hadj⟩ : ∃ t k, adjust useEmergencyPdn agpsType mask = (t, k) :=
      ⟨_, _, rfl⟩
    simp only [step, requestATL, hadj, Option.some.injEq] at h
    have hother : nifOf agpsType' ≠ nif → MachineStep m nif sm
        (.requestATL useEmergencyPdn connHandle agpsType mask) sm [] := by
      intro hne
      refine .other ?_ (by simp) (by simp)
      simpa only [ManagerCall.target, hadj, ne_eq, Option.some.injEq] using hne
    cases hget : m.getAgpsStateMachine (nifOf agpsType') with
    | none =>
      -- there is no machine for this type, so that the refusal is none of the calls of this one
      have hne : nifOf agpsType' ≠ nif := by
        rintro rfl
        rw [hsm] at hget
        cases hget
      simp only [hget, Prod.mk.injEq] at h
      obtain ⟨rfl, rfl⟩ := h
      refine ⟨sm, hsm, ?_⟩
      have hcalls := callsOf_map_ne hne [.openStatus connHandle false none 0 agpsApnBearerInvalid
        agpsType' mask']
      rw [List.map_singleton] at hcalls
      rw [hcalls]
      exact hother hne
    | some sm₁ =>
      simp only [hget] at h
      refine update_machine h hsm hget (fun hself heq ↦ ?_) hother
      subst heq
      exact .request useEmergencyPdn connHandle agpsType agpsType' mask mask' hadj hself
  | releaseATL connHandle =>
    simp only [step, releaseATL, Option.some.injEq] at h
    cases hfind : m.findSubscriber connHandle with
    | none =>
      simp only [hfind, Prod.mk.injEq] at h
      obtain ⟨rfl, rfl⟩ := h
      refine ⟨sm, hsm, .other (by simp [ManagerCall.target]) (by simp) ?_⟩
      rintro h' ⟨⟩
      rw [hfind]
      simp
    | some found =>
      obtain ⟨nif₁, sm₁⟩ := found
      simp only [hfind] at h
      refine update_machine h hsm (get_of_findSubscriber hfind).1 (fun hself heq ↦ ?_) fun hne ↦ ?_
      · subst hself heq
        exact .release connHandle hfind
      -- the handle was found in the other machine, and the search stopped there
      · refine .other (by simp [ManagerCall.target]) (by simp) ?_
        rintro h' ⟨⟩
        rw [hfind]
        simp [hne]
  | reportAtlOpenSuccess agpsType apn len bearer =>
    obtain ⟨sm₁, hget, hout⟩ := Option.map_eq_some_iff.mp h
    refine update_machine hout hsm hget (fun hself heq ↦ ?_) fun hne ↦ ?_
    · subst heq
      exact .granted agpsType apn len bearer hself
    · exact .other (by simpa [ManagerCall.target] using hne) (by simp) (by simp)
  | reportAtlOpenFailed agpsType =>
    obtain ⟨sm₁, hget, hout⟩ := Option.map_eq_some_iff.mp h
    refine update_machine hout hsm hget (fun hself heq ↦ ?_) fun hne ↦ ?_
    · subst heq
      exact .denied agpsType hself
    · exact .other (by simpa [ManagerCall.target] using hne) (by simp) (by simp)
  | reportAtlClosed agpsType =>
    obtain ⟨sm₁, hget, hout⟩ := Option.map_eq_some_iff.mp h
    refine update_machine hout hsm hget (fun hself heq ↦ ?_) fun hne ↦ ?_
    · subst heq
      exact .released agpsType hself
    · exact .other (by simpa [ManagerCall.target] using hne) (by simp) (by simp)
  | handleModemSSR =>
    simp only [step, Option.some.injEq, Prod.mk.injEq] at h
    obtain ⟨rfl, rfl⟩ := h
    refine ⟨sm.dropAllSubscribers, ?_, .ssr⟩
    cases nif <;> simp_all [handleModemSSR, getAgpsStateMachine]

private theorem update_none {out : AgpsStateMachine × List Call}
    {sm₁ : AgpsStateMachine} (hout : m.update nif' out = (m', outs))
    (hsm₁ : m.getAgpsStateMachine nif' = some sm₁) (hnone : m.getAgpsStateMachine nif = none) :
    m'.getAgpsStateMachine nif = none := by
  have hne : nif' ≠ nif := by
    rintro rfl
    rw [hnone] at hsm₁
    cases hsm₁
  have hget := get_update_ne (m := m) out hne
  rwa [hout, hnone] at hget

/-- No call creates a machine. -/
theorem step_none (h : m.step e = some (m', outs))
    (hnone : m.getAgpsStateMachine nif = none) : m'.getAgpsStateMachine nif = none := by
  cases e with
  | requestATL useEmergencyPdn connHandle agpsType mask =>
    simp only [step, requestATL, Option.some.injEq] at h
    split at h
    · rwa [← (Prod.mk.inj h).1]
    · next hget => exact update_none h hget hnone
  | releaseATL connHandle =>
    simp only [step, releaseATL, Option.some.injEq] at h
    split at h
    · rwa [← (Prod.mk.inj h).1]
    · next hfind => exact update_none h (get_of_findSubscriber hfind).1 hnone
  | reportAtlOpenSuccess | reportAtlOpenFailed | reportAtlClosed =>
    obtain ⟨sm₁, hget, hout⟩ := Option.map_eq_some_iff.mp h
    exact update_none hout hget hnone
  | handleModemSSR =>
    simp only [step, Option.some.injEq, Prod.mk.injEq] at h
    rw [← h.1]
    cases nif <;> simp_all [handleModemSSR, getAgpsStateMachine]

/-- The one call made for a machine that is missing: a request for it is refused at once. -/
theorem callsOf_missing
    (h : m.step e = some (m', outs)) (hnone : m.getAgpsStateMachine nif = none) :
    callsOf nif outs = [] ∨ ∃ useEmergencyPdn connHandle agpsType mask,
      e = .requestATL useEmergencyPdn connHandle agpsType mask ∧
      nifOf (adjust useEmergencyPdn agpsType mask).1 = nif ∧
      callsOf nif outs = [.openStatus connHandle false none 0 agpsApnBearerInvalid
        (adjust useEmergencyPdn agpsType mask).1 (adjust useEmergencyPdn agpsType mask).2] := by
  have hupd : ∀ {nif' : Nif} {sm₁ : AgpsStateMachine} {out : AgpsStateMachine × List Call},
      m.update nif' out = (m', outs) → m.getAgpsStateMachine nif' = some sm₁ →
        callsOf nif outs = [] := by
    intro nif' sm₁ out hout hsm₁
    have hne : nif' ≠ nif := by
      rintro rfl
      rw [hnone] at hsm₁
      cases hsm₁
    rw [← (Prod.mk.inj hout).2, callsOf_map_ne hne]
  cases e with
  | requestATL useEmergencyPdn connHandle agpsType mask =>
    simp only [step, requestATL, Option.some.injEq] at h
    split at h
    · rw [← (Prod.mk.inj h).2]
      by_cases hn : nifOf (adjust useEmergencyPdn agpsType mask).1 = nif
      · refine Or.inr ⟨useEmergencyPdn, connHandle, agpsType, mask, rfl, hn, ?_⟩
        rw [hn]
        exact callsOf_map_self nif [_]
      · exact Or.inl (callsOf_map_ne hn [_])
    · next hget => exact Or.inl (hupd h hget)
  | releaseATL connHandle =>
    simp only [step, releaseATL, Option.some.injEq] at h
    split at h
    · rw [← (Prod.mk.inj h).2]
      exact Or.inl rfl
    · next hfind => exact Or.inl (hupd h (get_of_findSubscriber hfind).1)
  | reportAtlOpenSuccess | reportAtlOpenFailed | reportAtlClosed =>
    obtain ⟨sm₁, hget, hout⟩ := Option.map_eq_some_iff.mp h
    exact Or.inl (hupd hout hget)
  | handleModemSSR =>
    simp only [step, Option.some.injEq, Prod.mk.injEq] at h
    rw [← h.2]
    exact Or.inl rfl

/-- Every machine there is after a call was there before it and took one `MachineStep`. -/
theorem machineStep_of_step {sm' : AgpsStateMachine}
    (h : m.step e = some (m', outs)) (hsm' : m'.getAgpsStateMachine nif = some sm') :
    ∃ sm, m.getAgpsStateMachine nif = some sm ∧ MachineStep m nif sm e sm' (callsOf nif outs) := by
  cases hsm : m.getAgpsStateMachine nif with
  | none =>
    rw [step_none h hsm] at hsm'
    cases hsm'
  | some sm =>
    obtain ⟨sm₁, hget, hstep⟩ := step_machine h hsm
    obtain rfl : sm₁ = sm' := Option.some_inj.mp (hget.symm.trans hsm')
    exact ⟨sm, rfl, hstep⟩

end AgpsManager

end MataDevice.Agps
