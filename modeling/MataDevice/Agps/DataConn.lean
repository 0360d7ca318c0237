import MataDevice.Agps.Subscribers

/-!
# The data connection of a machine

What a machine says to the framework about its data connection, and what the framework says to it,
is a ledger: the connection is requested, granted, and gone again once it is released, denied or
closed. A late answer to an earlier request does not count: a denial of a connection that is there
already and a closing of one that is only requested change nothing.

The first part is about ledgers as such. In any ledger, between the entries that the connection is
outstanding no request is missing, and between those that it is gone no end is. What is left to show
of the machines is that they request a connection only while it is gone, release it only while it is
outstanding, and that the state tells which. `ConnStep` extracts from a step of a machine what it
does to the connection.
-/

namespace MataDevice.Agps

open List

/-! ## Ledgers -/

/-- The data connection as the calls to the framework and its answers describe it. -/
inductive Connection
  | gone
  | requested
  | granted
  deriving DecidableEq, Repr

def IsRequest : Item ManagerCall Call → Prop
  | .out (.requestDataConn ..) => True
  | _ => False

def IsRelease : Item ManagerCall Call → Prop
  | .out (.releaseDataConn ..) => True
  | _ => False

/-- A release, or a DENIED or RELEASED event for this machine. -/
def Ends (nif : Nif) : Item ManagerCall Call → Prop
  | .out (.releaseDataConn ..) => True
  | .event (.reportAtlOpenFailed agpsType) => nifOf agpsType = nif
  | .event (.reportAtlClosed agpsType) => nifOf agpsType = nif
  | _ => False

/-- What one entry does to the connection. -/
def Connection.next (nif : Nif) : Connection → Item ManagerCall Call → Connection
  | _, .out (.requestDataConn ..) => .requested
  | _, .out (.releaseDataConn ..) => .gone
  | .requested, .event (.reportAtlOpenSuccess agpsType ..) =>
    if nifOf agpsType = nif then .granted else .requested
  | .requested, .event (.reportAtlOpenFailed agpsType) =>
    if nifOf agpsType = nif then .gone else .requested
  | .granted, .event (.reportAtlClosed agpsType) => if nifOf agpsType = nif then .gone else .granted
  | c, _ => c

/-- The connection after a list of entries. -/
def connection (nif : Nif) (items : List (Item ManagerCall Call)) : Connection :=
  items.foldl (Connection.next nif) .gone

theorem connection_concat (nif : Nif) (items : List (Item ManagerCall Call))
    (x : Item ManagerCall Call) :
    connection nif (items ++ [x]) = (connection nif items).next nif x := by
  rw [connection, foldl_append, ← connection]
  rfl

section Ledger

variable {nif : Nif} {c : Connection} {x : Item ManagerCall Call}
  {items : List (Item ManagerCall Call)}

/-- Only a request brings a connection that is gone back. -/
theorem isRequest_of_next (h : c.next nif x ≠ .gone) (hc : c = .gone) : IsRequest x := by
  subst hc
  rcases x with e | o
  · cases e <;> exact absurd rfl h
  · cases o with
    | requestDataConn => trivial
    | _ => exact absurd rfl h

theorem not_isRelease_of_next (h : c.next nif x ≠ .gone) : ¬IsRelease x := by
  intro hx
  rcases x with e | o
  · exact hx
  · cases o with
    | releaseDataConn => exact h rfl
    | _ => exact hx

/-- Only an end makes an outstanding connection go. -/
theorem ends_of_next (h : c.next nif x = .gone) (hc : c ≠ .gone) : Ends nif x := by
  rcases x with e | o
  · cases c with
    | gone => exact absurd rfl hc
    | requested =>
      cases e with
      | reportAtlOpenSuccess => rw [Connection.next] at h; split at h <;> cases h
      | reportAtlOpenFailed =>
        rw [Connection.next] at h
        split at h <;> first | assumption | cases h
      | _ => cases h
    | granted =>
      cases e with
      | reportAtlClosed => rw [Connection.next] at h; split at h <;> first | assumption | cases h
      | _ => cases h
  · cases o with
    | releaseDataConn => trivial
    | requestDataConn => cases h
    | _ => exact absurd h hc

theorem not_isRequest_of_next (h : c.next nif x = .gone) : ¬IsRequest x := by
  intro hx
  rcases x with e | o
  · exact hx
  · cases o with
    | requestDataConn => cases h
    | _ => exact hx

/-- While a connection is outstanding, every release so far came before a request, and there was
one. -/
theorem request_of_outstanding (h : connection nif items ≠ .gone) :
    FollowedBy IsRelease IsRequest items ∧ ∃ y ∈ items, IsRequest y := by
  induction items using List.reverseRecOn with
  | nil => exact absurd rfl h
  | append_singleton items x ih =>
    rw [connection_concat] at h
    have hrel := not_isRelease_of_next h
    by_cases hc : connection nif items = .gone
    · have hx := isRequest_of_next h hc
      refine ⟨followedBy_append.mpr ⟨Or.inr ⟨x, by simp, hx⟩, ?_⟩, x, by simp, hx⟩
      exact followedBy_of_forall_not (by simpa using hrel)
    · obtain ⟨hf, y, hy, hreq⟩ := ih hc
      exact ⟨hf.append (by simpa using hrel), y, mem_append_left _ hy, hreq⟩

/-- While it is gone, every request so far came before an end. -/
theorem ends_of_gone (h : connection nif items = .gone) :
    FollowedBy IsRequest (Ends nif) items := by
  induction items using List.reverseRecOn with
  | nil => exact followedBy_of_forall_not (by simp)
  | append_singleton items x ih =>
    rw [connection_concat] at h
    have hreq := not_isRequest_of_next h
    by_cases hc : connection nif items = .gone
    · exact (ih hc).append (by simpa using hreq)
    · have hx := ends_of_next h hc
      exact followedBy_append.mpr
        ⟨Or.inr ⟨x, by simp, hx⟩, followedBy_of_forall_not (by simpa using hreq)⟩

end Ledger

/-! ## What a step does to the connection -/

/-- The connection that a state stands for. -/
def AgpsState.connection : AgpsState → Connection
  | .pending => .requested
  | .acquired => .granted
  | .released | .releasing => .gone

/-- A handle that can be told of an open connection: the one that asks for it in this call, or one
that is listed while the connection is pending. -/
def Told (nif : Nif) (sm : AgpsStateMachine) (e : ManagerCall) (connHandle : ℤ) : Prop :=
  (∃ useEmergencyPdn agpsType mask, e = .requestATL useEmergencyPdn connHandle agpsType mask ∧
      nifOf (adjust useEmergencyPdn agpsType mask).1 = nif) ∨
    sm.state = .pending ∧ connHandle ∈ sm.handles

/-- A call to the adapter. An open-status call carries the type and the mask of the machine. -/
def ToAdapter (nif : Nif) (sm : AgpsStateMachine) (e : ManagerCall) (sm' : AgpsStateMachine) :
    Call → Prop
  | .openStatus connHandle _ _ _ _ agpsType mask =>
    agpsType = sm'.agpsType ∧ mask = sm'.apnTypeMask ∧ Told nif sm e connHandle
  | .closeStatus .. => True
  | .requestDataConn .. | .releaseDataConn .. => False

/-- A call of the manager takes the machine from `sm` to `sm'`; the machine makes some calls to the
adapter and then at most one to the framework. -/
inductive ConnStep (nif : Nif) (sm : AgpsStateMachine) (e : ManagerCall) (sm' : AgpsStateMachine) :
    List Call → Prop
  | keep {calls : List Call} : (∀ c ∈ calls, ToAdapter nif sm e sm' c) →
      sm.state.connection.next nif (.event e) = sm'.state.connection → ConnStep nif sm e sm' calls
  | request (calls : List Call) : (∀ c ∈ calls, ToAdapter nif sm e sm' c) →
      sm.state.connection = .gone → sm'.state = .pending →
      ConnStep nif sm e sm' (calls ++ [sm'.dataConnCall true])
  | release (calls : List Call) (connHandle : ℤ) : e = .releaseATL connHandle →
      (∀ c ∈ calls, ToAdapter nif sm e sm' c) → sm.state.connection ≠ .gone →
      sm'.state.connection = .gone → sm'.agpsType = sm.agpsType →
      sm'.apnTypeMask = sm.apnTypeMask → ConnStep nif sm e sm' (calls ++ [sm'.dataConnCall false])

section Steps

variable {nif : Nif} {sm sm' : AgpsStateMachine} {e : ManagerCall} {h : ℤ}

theorem next_event_of_target_ne (c : Connection) (he : e.target ≠ some nif) :
    c.next nif (.event e) = c := by
  cases e <;> cases c <;> simp_all [Connection.next, ManagerCall.target]

theorem next_event_gone (nif : Nif) (e : ManagerCall) :
    Connection.gone.next nif (.event e) = .gone := by
  cases e <;> rfl

theorem leave_parameters (sm : AgpsStateMachine) (h : ℤ) :
    (sm.leave h).1.agpsType = sm.agpsType ∧ (sm.leave h).1.apnTypeMask = sm.apnTypeMask := by
  rcases leave_cases sm h with ⟨hl, -⟩ | hl | hl <;> rw [hl] <;> exact ⟨rfl, rfl⟩

/-- A subscriber that leaves is told of nothing but the closing. -/
theorem toAdapter_leave (nif : Nif) (sm sm' : AgpsStateMachine) (e : ManagerCall) (h : ℤ) :
    ∀ c ∈ (sm.leave h).2, ToAdapter nif sm e sm' c := by
  rcases leave_cases sm h with ⟨hl, -⟩ | hl | hl <;> rw [hl] <;> simp [ToAdapter]

/-- Calls that notify subscribers of a pending machine. -/
theorem toAdapter_notify {sm₁ : AgpsStateMachine} (hst : sm.state = .pending)
    (hp : sm'.agpsType = sm₁.agpsType ∧ sm'.apnTypeMask = sm₁.apnTypeMask) (notice : Notice)
    {list : List AgpsSubscriber} (hl : ∀ s ∈ list, s ∈ sm.subscriberList) :
    ∀ c ∈ list.map fun s ↦ sm₁.notifyCall notice s.connHandle, ToAdapter nif sm e sm' c := by
  intro c hc
  obtain ⟨s, hs, rfl⟩ := mem_map.mp hc
  have htold : Told nif sm e s.connHandle := Or.inr ⟨hst, mem_map_of_mem (hl s hs)⟩
  cases notice <;> first | exact ⟨hp.1.symm, hp.2.symm, htold⟩ | trivial

theorem toAdapter_closeStatus (nif : Nif) (sm sm' : AgpsStateMachine) (e : ManagerCall)
    (list : List AgpsSubscriber) :
    ∀ c ∈ list.map fun s ↦ Call.closeStatus s.connHandle true, ToAdapter nif sm e sm' c := by
  intro c hc
  obtain ⟨s, -, rfl⟩ := mem_map.mp hc
  trivial

theorem ConnStep.keep_nil (he : sm.state.connection.next nif (.event e) = sm'.state.connection) :
    ConnStep nif sm e sm' [] := .keep (by simp) he

/-- A subscribe event, after the parameters of the machine have been set. -/
private theorem connStep_subscribe {sm₁ : AgpsStateMachine} (hsm : sm₁.state = sm.state)
    (current : AgpsSubscriber) (htold : Told nif sm e current.connHandle)
    (he : ∀ c : Connection, c.next nif (.event e) = c) :
    ConnStep nif sm e (sm₁.processAgpsEventSubscribe current).1
      (sm₁.processAgpsEventSubscribe current).2 := by
  have hp := addSubscriber_parameters sm₁ current
  have hst := state_addSubscriber sm₁ current
  rw [AgpsStateMachine.processAgpsEventSubscribe]
  cases hstate : sm₁.state with
  | released =>
    -- adding a subscriber leaves the parameters alone that the request carries
    have hcall : sm₁.dataConnCall true
        = ((sm₁.addSubscriber current).transitionState .pending).dataConnCall true := by
      simp only [AgpsStateMachine.dataConnCall, if_true, AgpsStateMachine.transitionState, hp.1,
        hp.2]
    simp only [hcall]
    exact .request [] (by simp) (by rw [← hsm, hstate]; rfl) rfl
  | pending => exact .keep_nil (by rw [he, hst, hsm])
  | acquired =>
    refine .keep ?_ (by rw [he, hst, hsm])
    intro c hc
    obtain rfl := mem_singleton.mp hc
    exact ⟨hp.1.symm, hp.2.symm, htold⟩
  | releasing => exact .keep_nil (by rw [he, hst, hsm])

private theorem connStep_releaseUnwanted (hst : sm.state.connection ≠ .gone) :
    ConnStep nif sm (.releaseATL h) (AgpsStateMachine.releaseUnwanted (sm.leave h)).1
      (AgpsStateMachine.releaseUnwanted (sm.leave h)).2 := by
  have hp := leave_parameters sm h
  have hcalls := toAdapter_leave nif sm
  rw [AgpsStateMachine.releaseUnwanted]
  split_ifs
  -- the list is empty, or holds only those who wait for the closing
  · exact .release _ h rfl (hcalls _ _ h) hst rfl hp.1 hp.2
  · exact .release _ h rfl (hcalls _ _ h) hst rfl hp.1 hp.2
  · have htarget : (ManagerCall.releaseATL h).target ≠ some nif := by simp [ManagerCall.target]
    exact .keep (hcalls _ _ h) (by rw [leave_state]; exact next_event_of_target_ne _ htarget)

/-- A GRANTED event, after the bearer and the APN of the machine have been set. -/
private theorem connStep_granted {sm₁ : AgpsStateMachine} (hsm : sm₁.state = sm.state)
    (hlist : sm₁.subscriberList = sm.subscriberList)
    {agpsType : AGpsExtType} {apn : Option (List UInt8)} {len : ℤ} {bearer : AGpsBearerType}
    (hn : nifOf agpsType = nif) :
    ConnStep nif sm (.reportAtlOpenSuccess agpsType apn len bearer) sm₁.processAgpsEventGranted.1
      sm₁.processAgpsEventGranted.2 := by
  rw [AgpsStateMachine.processAgpsEventGranted]
  cases hst : sm₁.state with
  | pending =>
    refine .keep (toAdapter_notify (hsm.symm.trans hst) ⟨rfl, rfl⟩ _ fun s hs ↦ ?_) ?_
    · rw [← hlist]
      exact (mem_filter.mp hs).1
    · rw [← hsm, hst]
      exact if_pos hn
  | released => exact .keep_nil (by rw [← hsm, hst]; rfl)
  | acquired => exact .keep_nil (by rw [← hsm, hst]; rfl)
  | releasing => exact .keep_nil (by rw [← hsm, hst]; rfl)

private theorem connStep_finishRelease (hst : sm.state.connection = .gone) :
    ConnStep nif sm e sm.finishRelease.1 sm.finishRelease.2 := by
  rcases finishRelease_cases sm with ⟨-, hrel⟩ | ⟨-, hrel⟩
  · rw [hrel]
    exact .request _ (toAdapter_closeStatus _ _ _ _ _) hst rfl
  · rw [hrel]
    exact .keep (toAdapter_closeStatus _ _ _ _ _) (by rw [hst, next_event_gone]; rfl)

/-- What a step of a machine does to its connection. -/
theorem connStep_of_machineStep {m : AgpsManager} {calls : List Call}
    (hs : MachineStep m nif sm e sm' calls) : ConnStep nif sm e sm' calls := by
  cases hs with
  | other ht => exact .keep_nil (next_event_of_target_ne _ ht)
  | request useEmergencyPdn connHandle agpsType agpsType' mask mask' hadj hn =>
    have hset : ((sm.setType agpsType').setApnTypeMask mask').state = sm.state := rfl
    refine connStep_subscribe hset _ (Or.inl ⟨_, _, _, rfl, by rwa [hadj]⟩) fun c ↦ ?_
    cases c <;> rfl
  | release connHandle hfind =>
    rw [AgpsStateMachine.processAgpsEventUnsubscribe]
    cases hst : sm.state with
    | released =>
      exact .keep (by simp [AgpsStateMachine.notifyCall, ToAdapter])
        (next_event_of_target_ne _ (by simp [ManagerCall.target]))
    | pending | acquired => exact connStep_releaseUnwanted (by rw [hst]; decide)
    | releasing =>
      simp only
      split_ifs
      · exact .keep (toAdapter_leave _ _ _ _ _) (by rw [hst]; rfl)
      · exact .keep (toAdapter_leave _ _ _ _ _) (by rw [leave_state, hst]; rfl)
  | granted agpsType apn len bearer hn =>
    have hset : ((sm.setBearer bearer).setAPN apn (len % 2 ^ 32).toNat).state = sm.state :=
      setAPN_state apn _
    exact connStep_granted hset (setAPN_subscriberList apn _) hn
  | denied agpsType hn =>
    rw [AgpsStateMachine.processAgpsEventDenied]
    cases hst : sm.state with
    -- only here is a denial the answer to the request that is out
    | pending =>
      rw [notifyAll_delete]
      refine .keep (toAdapter_notify hst ⟨rfl, rfl⟩ _ fun s hs ↦ hs) ?_
      rw [hst]
      exact if_pos hn
    | releasing => exact connStep_finishRelease (by rw [hst]; rfl)
    | released => exact .keep_nil (by rw [hst]; rfl)
    | acquired => exact .keep_nil (by rw [hst]; rfl)
  | released agpsType hn =>
    rw [AgpsStateMachine.processAgpsEventReleased]
    cases hst : sm.state with
    -- the framework closes a connection that was not released
    | acquired =>
      rw [notifyAll_delete]
      refine .keep (toAdapter_closeStatus _ _ _ _ _) ?_
      rw [hst]
      exact if_pos hn
    | releasing => exact connStep_finishRelease (by rw [hst]; rfl)
    | released => exact .keep_nil (by rw [hst]; rfl)
    | pending => exact .keep_nil (by rw [hst]; rfl)
  | ssr => exact .keep_nil (next_event_of_target_ne _ (by simp [ManagerCall.target]))

end Steps

/-! ## Runs -/

section Runs

variable {nif : Nif} {sm sm' : AgpsStateMachine} {e : ManagerCall} {calls : List Call}
  {items : List (Item ManagerCall Call)}

/-- A connection is released only while it is outstanding, and requested only while it is gone. -/
def InOrder (nif : Nif) (pre : List (Item ManagerCall Call)) (x : Item ManagerCall Call) : Prop :=
  (IsRelease x → connection nif pre ≠ .gone) ∧ (IsRequest x → connection nif pre = .gone)

/-- The ledger of a machine is in order and says what its state says. -/
structure Kept (nif : Nif) (items : List (Item ManagerCall Call)) (sm : AgpsStateMachine) :
    Prop where
  connection_eq : connection nif items = sm.state.connection
  inOrder : Always (InOrder nif) items

theorem inOrder_event (pre : List (Item ManagerCall Call)) : InOrder nif pre (.event e) :=
  ⟨False.elim, False.elim⟩

theorem inOrder_toAdapter {c : Call} (hc : ToAdapter nif sm e sm' c)
    (pre : List (Item ManagerCall Call)) :
    InOrder nif pre (.out c) := by
  cases c with
  | openStatus => exact ⟨False.elim, False.elim⟩
  | closeStatus => exact ⟨False.elim, False.elim⟩
  | requestDataConn => exact hc.elim
  | releaseDataConn => exact hc.elim

theorem next_toAdapter {c : Call} (hc : ToAdapter nif sm e sm' c) (conn : Connection) :
    conn.next nif (.out c) = conn := by
  cases c with
  | openStatus => cases conn <;> rfl
  | closeStatus => cases conn <;> rfl
  | requestDataConn => exact hc.elim
  | releaseDataConn => exact hc.elim

/-- Calls to the adapter do not touch the ledger. -/
theorem connection_append_toAdapter (hc : ∀ c ∈ calls, ToAdapter nif sm e sm' c) :
    connection nif (items ++ calls.map .out) = connection nif items := by
  induction calls using List.reverseRecOn with
  | nil => rw [map_nil, List.append_nil]
  | append_singleton calls c ih =>
    rw [map_append, map_singleton, ← append_assoc, connection_concat,
      next_toAdapter (hc c (by simp)), ih fun c' hc' ↦ hc c' (mem_append_left _ hc')]

theorem Kept.step (hk : Kept nif items sm) (hs : ConnStep nif sm e sm' calls) :
    Kept nif (items ++ entry e calls) sm' := by
  have hev : Always (InOrder nif) (items ++ [.event e]) :=
    always_concat.mpr ⟨hk.inOrder, inOrder_event _⟩
  have hconn : connection nif (items ++ [.event e]) = sm.state.connection.next nif (.event e) := by
    rw [connection_concat, hk.connection_eq]
  have hadapter : ∀ {calls : List Call}, (∀ c ∈ calls, ToAdapter nif sm e sm' c) →
      Always (InOrder nif) ((items ++ [.event e]) ++ calls.map .out) := by
    intro calls hc
    refine always_append.mpr ⟨hev, Always.of_forall fun x hx pre ↦ ?_⟩
    obtain ⟨c, hc', rfl⟩ := mem_map.mp hx
    exact inOrder_toAdapter (hc c hc') _
  cases hs with
  | keep hc hnext =>
    rw [append_entry]
    exact ⟨by rw [connection_append_toAdapter hc, hconn, hnext], hadapter hc⟩
  | request calls hc hgone hpend =>
    have hlast : connection nif ((items ++ [.event e]) ++ calls.map .out) = .gone := by
      rw [connection_append_toAdapter hc, hconn, hgone, next_event_gone]
    rw [append_entry, map_append, map_singleton, ← append_assoc]
    refine ⟨?_, always_concat.mpr ⟨hadapter hc, False.elim, fun _ ↦ hlast⟩⟩
    rw [connection_concat, hpend]
    rfl
  | release calls connHandle he hc hout hgone =>
    have ht : (ManagerCall.releaseATL connHandle).target ≠ some nif := by simp [ManagerCall.target]
    have hlast : connection nif ((items ++ [.event e]) ++ calls.map .out) ≠ .gone := by
      rw [connection_append_toAdapter hc, hconn, he, next_event_of_target_ne _ ht]
      exact hout
    rw [append_entry, map_append, map_singleton, ← append_assoc]
    refine ⟨?_, always_concat.mpr ⟨hadapter hc, fun _ ↦ hlast, False.elim⟩⟩
    rw [connection_concat, hgone]
    rfl

end Runs

/-- **Data connection calls are balanced.** In every run the calls of a machine to the framework
hold no release without a request before it and since the last release, and no request after another
one unless the connection was released, denied or closed in between; and a request is outstanding
exactly while the machine is pending or has acquired the connection. -/
theorem dataConn_balanced {m₀ m : AgpsManager} {hist : List (Item ManagerCall (Nif × Call))}
    {nif : Nif} {sm : AgpsStateMachine} (h₀ : m₀.Initial)
    (hr : Run AgpsManager.step (fun _ _ ↦ True) m₀ hist m)
    (hsm : m.getAgpsStateMachine nif = some sm) :
    Always (fun pre x ↦ IsRelease x →
        (∃ y ∈ pre, IsRequest y) ∧ FollowedBy IsRelease IsRequest pre) (view nif hist) ∧
      Always (fun pre x ↦ IsRequest x → FollowedBy IsRequest (Ends nif) pre) (view nif hist) ∧
      (connection nif (view nif hist) ≠ .gone ↔ sm.state = .pending ∨ sm.state = .acquired) := by
  have hkept : ∀ nif sm, m.getAgpsStateMachine nif = some sm → Kept nif (view nif hist) sm := by
    refine hr.invariant (I := fun hist m ↦ ∀ nif sm, m.getAgpsStateMachine nif = some sm →
      Kept nif (view nif hist) sm) ?_ ?_
    · intro nif sm hsm
      obtain ⟨agpsType, mask, rfl⟩ := h₀ nif sm hsm
      exact ⟨rfl, always_nil _⟩
    · intro hist m e m' outs ih _ hstep nif sm' hsm'
      obtain ⟨sm, hsm, hms⟩ := AgpsManager.machineStep_of_step hstep hsm'
      rw [view_append_entry]
      exact (ih nif sm hsm).step (connStep_of_machineStep hms)
  obtain ⟨hconn, horder⟩ := hkept nif sm hsm
  refine ⟨fun pre x post hx hrel ↦ ?_, fun pre x post hx hreq ↦ ?_, ?_⟩
  · obtain ⟨hfollow, hex⟩ := request_of_outstanding ((horder pre x post hx).1 hrel)
    exact ⟨hex, hfollow⟩
  · exact ends_of_gone ((horder pre x post hx).2 hreq)
  · rw [hconn]
    cases sm.state <;> simp [AgpsState.connection]

/-- A request that is cancelled before it is answered, and made again while the release is still in
progress. -/
theorem dataConn_balanced_again : ∃ hist m sm,
    Run AgpsManager.step (fun _ _ ↦ True) sampleManager hist m ∧
      m.getAgpsStateMachine .agnss = some sm ∧ sm.state = .pending ∧
      connection .agnss (view .agnss hist) ≠ .gone := by
  obtain ⟨hist, m, hr, hst⟩ := Run.exists_of_runEvents AgpsManager.step (fun _ _ ↦ True)
    sampleManager [.requestATL 1 7 locAgpsTypeSupl 16, .releaseATL 7,
      .requestATL 1 8 locAgpsTypeSupl 16, .reportAtlClosed locAgpsTypeSupl]
    (fun _ m ↦ m.isIn .agnss .pending) (by decide)
  obtain ⟨sm, hsm, hpend⟩ := AgpsManager.exists_of_isIn hst
  exact ⟨hist, m, sm, hr, hsm, hpend,
    (dataConn_balanced initial_sampleManager hr hsm).2.2.mpr (Or.inl hpend)⟩

end MataDevice.Agps
