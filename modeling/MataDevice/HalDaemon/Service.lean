import MataDevice.HalDaemon.ClientHandler
import MataDevice.Lib.History

/-!
# The service of the HAL daemon

`LocationApiService` gets messages of its clients, power events and requests to delete aiding data.
The latter two concern the tracking sessions of all clients: they are suspended, and started again
with the options the handlers have kept. `LocationAPI` answers the calls it received, one by one;
each answer is sent to the client as a response to the request that waits the longest.

The clients are in an unordered map. A walk through it that can end early is given the order in
which it meets them, together with the ids that `LocationAPI` returns when it starts their sessions.
-/

namespace MataDevice.HalDaemon

open List
open MataDevice.Tracking (LocationError GnssSuplMode)

/-- A client, by the name of its socket. Names are only compared. -/
abbrev SocketName := ℕ

inductive PowerStateType
  | unknown
  | suspend
  | resume
  | shutdown
  deriving DecidableEq, Repr

/-- The sessions stay suspended until the state changes. -/
def PowerStateType.isDown : PowerStateType → Bool
  | suspend | shutdown => true
  | unknown | resume => false

inductive Event
  /-- with or without a `LocationAPI` object -/
  | newClient (name : SocketName) (locationApi : Bool)
  | deleteClient (name : SocketName)
  | message (name : SocketName) (msg : Message) (id : UInt32)
  | onPowerEvent (powerState : PowerStateType) (order : List (SocketName × UInt32))
  | configAidingDataDeletion (order : List (SocketName × UInt32))
  /-- `LocationAPI` answers the call at `i` of those that wait; `rc` says whether the response can
  be sent. -/
  | onResponseCb (name : SocketName) (i : ℕ) (err : LocationError) (rc : Bool)
  deriving DecidableEq

inductive Output
  /-- A generic response with its message id; `answered` is the call that the answer is for. -/
  | genericResp (name : SocketName) (msgId : ELocMsgID) (err : LocationError)
      (answered : ELocMsgID)
  /-- A new client has been registered. -/
  | registered (name : SocketName)
  deriving DecidableEq, Repr

structure LocationApiService where
  mClients : OrderedMap SocketName Client
  mPositionMode : GnssSuplMode
  mPowerState : PowerStateType

namespace LocationApiService

def init (positionMode : GnssSuplMode) : LocationApiService := ⟨.empty, positionMode, .unknown⟩

variable (s : LocationApiService)

def setClient (name : SocketName) (c : Client) : LocationApiService :=
  { s with mClients := s.mClients.insert name c }

/-- A client of that name that is there already stays. -/
def newClient (name : SocketName) (locationApi : Bool) : LocationApiService × List Output :=
  match s.mClients.find? name with
  | some _ => (s, [])
  | none => (s.setClient name (.new locationApi), [.registered name])

def deleteClientbyName (name : SocketName) : LocationApiService :=
  { s with mClients := s.mClients.erase name }

def message (name : SocketName) (msg : Message) (id : UInt32) : LocationApiService :=
  match s.mClients.find? name with
  | some c => s.setClient name (c.handle s.mPositionMode id msg)
  | none => s

def suspendAllTrackingSessions : LocationApiService :=
  { s with mClients := s.mClients.mapValues Client.suspend }

/-- The first client whose session cannot be started ends the loop. -/
def resumeAllTrackingSessions : LocationApiService → List (SocketName × UInt32) → LocationApiService
  | s, [] => s
  | s, (name, id) :: order =>
    match s.mClients.find? name with
    | none => s.resumeAllTrackingSessions order
    | some c =>
      let (c, goesOn) := c.resume id
      if goesOn then (s.setClient name c).resumeAllTrackingSessions order else s.setClient name c

def onPowerEvent (powerState : PowerStateType) (order : List (SocketName × UInt32)) :
    LocationApiService :=
  let s := { s with mPowerState := powerState }
  match powerState with
  | .suspend | .shutdown => s.suspendAllTrackingSessions
  | .resume => s.resumeAllTrackingSessions order
  | .unknown => s

def configAidingDataDeletion (order : List (SocketName × UInt32)) : LocationApiService :=
  let s := s.suspendAllTrackingSessions
  if s.mPowerState.isDown then s else s.resumeAllTrackingSessions order

/-- Without a message that waits nothing is sent. A client that cannot be reached is deleted. -/
def onResponseCb (name : SocketName) (c : Client) (err : LocationError) (answered : ELocMsgID)
    (rc : Bool) : LocationApiService × List Output :=
  let s := s.setClient name c.popPending.1
  match c.popPending.2 with
  | none => (s, [])
  | some msgId =>
    if rc then (s, [.genericResp name msgId err answered]) else (s.deleteClientbyName name, [])

/-- The order of a walk through the clients: each of them comes once. -/
def Walk (order : List (SocketName × UInt32)) : Prop :=
  (order.map Prod.fst).Perm (s.mClients.entries.map Prod.fst)

instance (order : List (SocketName × UInt32)) : Decidable (s.Walk order) :=
  inferInstanceAs (Decidable (List.Perm _ _))

/-- `PowerEvtHandler` passes on no other power states than the three it knows. -/
def step : Event → Option (LocationApiService × List Output)
  | .newClient name locationApi => some (s.newClient name locationApi)
  | .deleteClient name => some (s.deleteClientbyName name, [])
  | .message name msg id => some (s.message name msg id, [])
  | .onPowerEvent powerState order =>
    if powerState ≠ .unknown ∧ s.Walk order then some (s.onPowerEvent powerState order, []) else none
  | .configAidingDataDeletion order =>
    if s.Walk order then some (s.configAidingDataDeletion order, []) else none
  | .onResponseCb name i err rc =>
    match s.mClients.find? name with
    | none => none
    | some c =>
      match c.api.answers i with
      | none => none
      | some answered => some (s.onResponseCb name { c with api := c.api.answer i } err answered rc)

/-! ## Looking up a client -/

section Lookup

variable {s} {name : SocketName} {order : List (SocketName × UInt32)}

@[simp] theorem find?_setClient (name' : SocketName) (c : Client) :
    (s.setClient name' c).mClients.find? name =
      if name = name' then some c else s.mClients.find? name :=
  OrderedMap.find?_insert name

theorem find?_suspendAllTrackingSessions :
    s.suspendAllTrackingSessions.mClients.find? name = (s.mClients.find? name).map Client.suspend :=
  OrderedMap.find?_mapValues ..

/-- A client that is registered starts from scratch. -/
theorem newClient_eq (name : SocketName) (locationApi : Bool) :
    s.newClient name locationApi = (s, []) ∨
      s.newClient name locationApi = (s.setClient name (.new locationApi), [.registered name]) := by
  rw [newClient]
  split
  · exact Or.inl rfl
  · exact Or.inr rfl

theorem find?_deleteClientbyName (name' : SocketName) :
    (s.deleteClientbyName name').mClients.find? name =
      if name = name' then none else s.mClients.find? name :=
  OrderedMap.find?_erase name

theorem find?_message (name' : SocketName) (msg : Message) (id : UInt32) :
    (s.message name' msg id).mClients.find? name =
      if name = name' then (s.mClients.find? name).map (Client.handle · s.mPositionMode id msg)
      else s.mClients.find? name := by
  rw [message]
  split
  · next c hc =>
    rw [find?_setClient]
    split
    · next heq => rw [heq, hc, Option.map_some]
    · rfl
  · next hnone =>
    split
    · next heq => rw [heq, hnone, Option.map_none]
    · rfl

/-! ## What a step does -/

section Steps

variable {s' : LocationApiService} {outs : List Output}

theorem step_onPowerEvent {powerState : PowerStateType}
    (h : s.step (.onPowerEvent powerState order) = some (s', outs)) :
    (powerState ≠ .unknown ∧ s.Walk order) ∧ s' = s.onPowerEvent powerState order ∧ outs = [] := by
  rw [step] at h
  split at h
  · next hwalk =>
    obtain ⟨rfl, rfl⟩ := some_pair_inj h
    exact ⟨hwalk, rfl, rfl⟩
  · cases h

theorem step_configAidingDataDeletion
    (h : s.step (.configAidingDataDeletion order) = some (s', outs)) :
    s.Walk order ∧ s' = s.configAidingDataDeletion order ∧ outs = [] := by
  rw [step] at h
  split at h
  · next hwalk =>
    obtain ⟨rfl, rfl⟩ := some_pair_inj h
    exact ⟨hwalk, rfl, rfl⟩
  · cases h

/-- Only a call that waits for its answer is answered. -/
theorem step_onResponseCb {i : ℕ} {err : LocationError} {rc : Bool}
    (h : s.step (.onResponseCb name i err rc) = some (s', outs)) :
    ∃ c answered, s.mClients.find? name = some c ∧ c.api.answers i = some answered ∧
      s.onResponseCb name { c with api := c.api.answer i } err answered rc = (s', outs) := by
  rw [step] at h
  split at h
  · cases h
  · next c hfind =>
    split at h
    · cases h
    · next answered hanswered => exact ⟨c, answered, hfind, hanswered, Option.some_inj.mp h⟩

end Steps

/-- An answer concerns one client, from which a message is popped unless it is deleted. -/
theorem find?_onResponseCb (name name' : SocketName) (c : Client) (err : LocationError)
    (answered : ELocMsgID) (rc : Bool) :
    (s.onResponseCb name' c err answered rc).1.mClients.find? name =
        (if name = name' then some c.popPending.1 else s.mClients.find? name) ∨
      name = name' ∧ (s.onResponseCb name' c err answered rc).1.mClients.find? name = none := by
  rw [onResponseCb]
  split
  · exact Or.inl (find?_setClient ..)
  · split
    · exact Or.inl (find?_setClient ..)
    · rw [find?_deleteClientbyName]
      split
      · next heq => exact Or.inr ⟨heq, rfl⟩
      · next hne => exact Or.inl (by rw [find?_setClient, if_neg hne])

/-- A response is sent to the client that is answered, with the message that was popped. -/
theorem mem_onResponseCb {name' : SocketName} {c : Client} {err err' : LocationError}
    {msgId answered answered' : ELocMsgID} {rc : Bool}
    (h : .genericResp name msgId err' answered' ∈
      (s.onResponseCb name' c err answered rc).2) :
    name = name' ∧ c.handler.mPendingMessages.head? = some msgId ∧ answered' = answered := by
  rw [onResponseCb] at h
  split at h
  · cases h
  · next msgId' hpop =>
    split at h
    · obtain ⟨rfl, rfl, rfl, rfl⟩ : name = name' ∧ msgId = msgId' ∧ err' = err ∧
          answered' = answered := by simpa using h
      exact ⟨rfl, hpop, rfl⟩
    · cases h

/-- The walk leaves a client as it was, or resumes it once. -/
theorem find?_resumeAllTrackingSessions (name : SocketName)
    (horder : (order.map Prod.fst).Nodup) :
    (s.resumeAllTrackingSessions order).mClients.find? name = s.mClients.find? name ∨
      ∃ c id, s.mClients.find? name = some c ∧ (name, id) ∈ order ∧
        (s.resumeAllTrackingSessions order).mClients.find? name = some (c.resume id).1 := by
  induction order generalizing s with
  | nil => exact Or.inl rfl
  | cons entry order ih =>
    obtain ⟨name', id⟩ := entry
    rw [map_cons, nodup_cons] at horder
    have hrest : ∀ s : LocationApiService,
        (s.resumeAllTrackingSessions order).mClients.find? name = s.mClients.find? name ∨
          ∃ c id', s.mClients.find? name = some c ∧ (name, id') ∈ (name', id) :: order ∧
            (s.resumeAllTrackingSessions order).mClients.find? name = some (c.resume id').1 := by
      intro s
      refine (ih (s := s) horder.2).imp_right ?_
      rintro ⟨c, id', hc, hmem, hres⟩
      exact ⟨c, id', hc, mem_cons_of_mem _ hmem, hres⟩
    rw [resumeAllTrackingSessions]
    split
    · exact hrest s
    · next c hc =>
      by_cases hname : name = name'
      · -- the client is met here, and not again
        subst hname
        refine Or.inr ⟨c, id, hc, mem_cons_self, ?_⟩
        dsimp only
        split
        · rcases ih (s := s.setClient name (c.resume id).1) horder.2 with h | ⟨_, id', -, hmem, -⟩
          · rw [h, find?_setClient, if_pos rfl]
          · exact absurd (mem_map_of_mem hmem) horder.1
        · rw [find?_setClient, if_pos rfl]
      · dsimp only
        split
        · have h := hrest (s.setClient name' (c.resume id).1)
          rwa [find?_setClient, if_neg hname] at h
        · rw [find?_setClient, if_neg hname]
          exact Or.inl rfl

/-- A walk that does not end early resumes every client. -/
theorem find?_resumeAllTrackingSessions_of_goesOn {c : Client} {id : UInt32}
    (horder : (order.map Prod.fst).Nodup)
    (hon : ∀ entry ∈ order, ∀ c ∈ s.mClients.find? entry.1, (c.resume entry.2).2 = true)
    (hmem : (name, id) ∈ order) (hfind : s.mClients.find? name = some c) :
    (s.resumeAllTrackingSessions order).mClients.find? name = some (c.resume id).1 := by
  induction order generalizing s with
  | nil => cases hmem
  | cons entry order ih =>
    obtain ⟨name', id'⟩ := entry
    rw [map_cons, nodup_cons] at horder
    rw [resumeAllTrackingSessions]
    split
    · next hnone =>
      rcases mem_cons.mp hmem with heq | hmem
      · obtain ⟨rfl, rfl⟩ := Prod.mk.inj heq
        rw [hfind] at hnone
        cases hnone
      · exact ih horder.2 (fun e he ↦ hon e (mem_cons_of_mem _ he)) hmem hfind
    · next c' hc' =>
      have hgoes : (c'.resume id').2 = true := hon _ mem_cons_self c' hc'
      dsimp only
      rw [if_pos hgoes]
      rcases mem_cons.mp hmem with heq | hrest
      · -- the client is met here; the rest of the walk does not change it
        obtain ⟨rfl, rfl⟩ := Prod.mk.inj heq
        obtain rfl : c' = c := Option.some_inj.mp (hc'.symm.trans hfind)
        rcases find?_resumeAllTrackingSessions (s := s.setClient name (c'.resume id).1) name
          horder.2 with hsame | ⟨_, _, -, hmem, -⟩
        · rw [hsame, find?_setClient, if_pos rfl]
        · exact absurd (mem_map_of_mem hmem) horder.1
      · have hne : name ≠ name' := by
          rintro rfl
          exact horder.1 (mem_map.mpr ⟨_, hrest, rfl⟩)
        refine ih horder.2 (fun e he c hc ↦ hon e (mem_cons_of_mem _ he) c ?_) hrest ?_
        · have hne' : e.1 ≠ name' := by
            rintro rfl
            exact horder.1 (mem_map.mpr ⟨_, he, rfl⟩)
          rwa [find?_setClient, if_neg hne'] at hc
        · rw [find?_setClient, if_neg hne]
          exact hfind

theorem Walk.exists_mem {c : Client} (h : s.Walk order) (hfind : s.mClients.find? name = some c) :
    ∃ id, (name, id) ∈ order := by
  have hkey : name ∈ s.mClients.entries.map Prod.fst :=
    mem_map.mpr ⟨_, OrderedMap.find?_eq_some_iff.mp hfind, rfl⟩
  obtain ⟨⟨name', id⟩, hmem, rfl⟩ := mem_map.mp (h.mem_iff.mpr hkey)
  exact ⟨id, hmem⟩

theorem Walk.nodup (h : s.Walk order) : (order.map Prod.fst).Nodup :=
  h.nodup_iff.mpr OrderedMap.nodup_keys

end Lookup

end LocationApiService

end MataDevice.HalDaemon
