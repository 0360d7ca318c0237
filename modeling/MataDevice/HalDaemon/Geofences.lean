import MataDevice.HalDaemon.ClientHandler
import MataDevice.Lib.History
import MataDevice.Lib.OrderedMap

/-!
# The geofence ids of a client of the HAL daemon

A client names its geofences with ids of its own, `LocationAPI` with session ids. The handler of the
client has a map from the ones to the others. It translates the requests with an operator that
enters an id it does not find, under session zero, and the responses and the breaches by a search
through the values, which gives zero if there is no such value. Whatever fails is erased when the
response comes, be it an add or not.

An item of a command is the session id that is sent and the id that the client gave with it. Only
the session id is known outside the handler; the id of the client stands beside it to say whose
geofence it is. The geofence exists from a successful answer to its add to a successful answer to a
remove. The map is unordered, so that the order in which it is searched comes with each answer.
-/

namespace MataDevice.HalDaemon

open List
open MataDevice.Tracking (LocationError)
open OrderedMap (find?_eq_some_iff find?_insert)

/-! ## Data types -/

/-- The message ids of the requests that are answered by a collective response. -/
inductive GfMsgID
  | addGeofences
  | removeGeofences
  | modifyGeofences
  | pauseGeofences
  | resumeGeofences
  deriving DecidableEq, Repr

def maxGeofenceCount : ℕ := 20

/-- What a handler keeps for the geofences of its client. Without `mIpcSender` the client is purged:
it is not found by its name any more and gets nothing. -/
structure GeofenceHandler where
  mIpcSender : Bool
  mSubscriptionMask : CallbacksMask
  /-- What `LocationAPI` returned for the last add that reached it. -/
  mGeofenceIds : Option (List ℕ)
  mGfIdsMap : OrderedMap ℕ ℕ
  mGfPendingMessages : List GfMsgID

/-- The ids of a client for the items of a command, with their errors. -/
abbrev CollectiveRes : Type := List (ℕ × LocationError)

/-- A call to `LocationAPI`, with the session ids of its items. -/
abbrev GeofenceCall : Type := GfMsgID × List ℕ

/-! ## The map -/

section Map

variable (m : OrderedMap ℕ ℕ)

def setGeofenceIds (clientIds sessionIds : List ℕ) : OrderedMap ℕ ℕ :=
  (clientIds.zip sessionIds).foldl (fun m e ↦ m.insert e.1 e.2) m

def eraseGeofenceIds (clientIds : List ℕ) : OrderedMap ℕ ℕ :=
  clientIds.foldl (fun m id ↦ m.erase id) m

/-- `mGfIdsMap[clientId]`: an id that is not there is entered. -/
def sessionIdOf (clientId : ℕ) : OrderedMap ℕ ℕ × ℕ :=
  match m.find? clientId with
  | some n => (m, n)
  | none => (m.insert clientId 0, 0)

def getSessionIds : OrderedMap ℕ ℕ → List ℕ → OrderedMap ℕ ℕ × List ℕ
  | m, [] => (m, [])
  | m, clientId :: clientIds =>
    let r := sessionIdOf m clientId
    let rs := getSessionIds r.1 clientIds
    (rs.1, r.2 :: rs.2)

/-- The last entry with the session, in the order of the walk, or zero. -/
def clientIdOf (itor : List (ℕ × ℕ)) (sessionId : ℕ) : ℕ :=
  itor.foldl (fun clientId e ↦ if e.2 = sessionId then e.1 else clientId) 0

def getClientIds (itor : List (ℕ × ℕ)) (sessionIds : List ℕ) : List ℕ :=
  sessionIds.map (clientIdOf itor)

/-- The ids of failed items are erased one by one. -/
def eraseFailed (res : CollectiveRes) : OrderedMap ℕ ℕ :=
  res.foldl (fun m r ↦ if r.2 ≠ .success then eraseGeofenceIds m [r.1] else m) m

end Map

section MapLemmas

variable {m : OrderedMap ℕ ℕ} {k n id : ℕ} {itor : List (ℕ × ℕ)}

theorem find?_eraseGeofenceIds (m : OrderedMap ℕ ℕ) (clientIds : List ℕ) :
    (eraseGeofenceIds m clientIds).find? k = if k ∈ clientIds then none else m.find? k := by
  induction clientIds generalizing m with
  | nil => simp [eraseGeofenceIds]
  | cons id ids ih =>
    have hstep : eraseGeofenceIds m (id :: ids) = eraseGeofenceIds (m.erase id) ids := rfl
    rw [hstep, ih, OrderedMap.find?_erase]
    by_cases hk : k = id <;> simp [hk]

theorem eraseFailed_eq (m : OrderedMap ℕ ℕ) (res : CollectiveRes) :
    eraseFailed m res =
      eraseGeofenceIds m ((res.filter fun r ↦ r.2 ≠ .success).map Prod.fst) := by
  induction res generalizing m with
  | nil => rfl
  | cons r res ih =>
    have hstep : eraseFailed m (r :: res) =
        eraseFailed (if r.2 ≠ .success then eraseGeofenceIds m [r.1] else m) res := rfl
    rw [hstep, ih]
    by_cases hr : r.2 = .success
    · simp [hr]
    · simp [hr, eraseGeofenceIds]

theorem find?_sessionIdOf (m : OrderedMap ℕ ℕ) (clientId : ℕ) :
    (sessionIdOf m clientId).1.find? k =
      if k = clientId then some ((m.find? clientId).getD 0) else m.find? k := by
  rw [sessionIdOf]
  cases hfind : m.find? clientId with
  | none => rw [find?_insert, Option.getD_none]
  | some n =>
    by_cases hk : k = clientId
    · rw [if_pos hk, hk, hfind, Option.getD_some]
    · rw [if_neg hk]

/-- A look-up only adds entries with session zero. -/
theorem find?_getSessionIds (hn : n ≠ 0) (m : OrderedMap ℕ ℕ) (clientIds : List ℕ) :
    (getSessionIds m clientIds).1.find? k = some n ↔ m.find? k = some n := by
  induction clientIds generalizing m with
  | nil => rfl
  | cons id ids ih =>
    rw [getSessionIds, ih, find?_sessionIdOf]
    by_cases hk : k = id
    · subst hk
      rw [if_pos rfl]
      cases m.find? k with
      | none => simp [hn.symm]
      | some n' => simp
    · rw [if_neg hk]

theorem length_getSessionIds (m : OrderedMap ℕ ℕ) (clientIds : List ℕ) :
    (getSessionIds m clientIds).2.length = clientIds.length := by
  induction clientIds generalizing m with
  | nil => rfl
  | cons id ids ih => rw [getSessionIds, length_cons, ih, length_cons]

/-- New ids are entered, and the other entries stay. -/
theorem find?_setGeofenceIds {clientIds sessionIds : List ℕ} (hnodup : clientIds.Nodup)
    (m : OrderedMap ℕ ℕ) (hlen : sessionIds.length = clientIds.length) :
    (setGeofenceIds m clientIds sessionIds).find? k = some n ↔
      (k, n) ∈ clientIds.zip sessionIds ∨ k ∉ clientIds ∧ m.find? k = some n := by
  induction clientIds generalizing m sessionIds with
  | nil => simp [setGeofenceIds]
  | cons id ids ih =>
    cases sessionIds with
    | nil => simp at hlen
    | cons n' ns =>
      have hstep : setGeofenceIds m (id :: ids) (n' :: ns) =
          setGeofenceIds (m.insert id n') ids ns := rfl
      have hid : ∀ n, (id, n) ∉ ids.zip ns := fun n h ↦
        (nodup_cons.mp hnodup).1 (of_mem_zip h).1
      rw [hstep, ih (nodup_cons.mp hnodup).2 _ (by simpa using hlen), find?_insert]
      by_cases hk : k = id
      · subst hk
        simp [hid, (nodup_cons.mp hnodup).1, eq_comm]
      · simp [hk]

theorem foldl_clientIdOf (itor : List (ℕ × ℕ)) (n acc : ℕ) :
    let r := itor.foldl (fun clientId e ↦ if e.2 = n then e.1 else clientId) acc
    (r = acc ∧ ∀ e ∈ itor, e.2 ≠ n) ∨ (r, n) ∈ itor := by
  induction itor generalizing acc with
  | nil => simp
  | cons e itor ih =>
    rw [foldl_cons]
    rcases ih (if e.2 = n then e.1 else acc) with ⟨heq, hnone⟩ | hmem
    · by_cases he : e.2 = n
      · refine Or.inr ?_
        rw [heq, if_pos he, ← he]
        exact mem_cons_self
      · refine Or.inl ⟨by rw [heq, if_neg he], fun e' he' ↦ ?_⟩
        rcases mem_cons.mp he' with rfl | he'
        · exact he
        · exact hnone e' he'
    · exact Or.inr (mem_cons_of_mem _ hmem)

/-- The search finds an id that is the only one with its session. -/
theorem clientIdOf_eq (honly : ∀ e ∈ itor, e.2 = n → e.1 = id)
    (hmem : (id, n) ∈ itor ∨ id = 0) : clientIdOf itor n = id := by
  rcases foldl_clientIdOf itor n 0 with ⟨heq, hnone⟩ | hfound
  · rcases hmem with hmem | rfl
    · exact absurd rfl (hnone _ hmem)
    · exact heq
  · exact honly _ hfound rfl

end MapLemmas

/-! ## The handler -/

namespace GeofenceHandler

def new (mask : CallbacksMask) : GeofenceHandler := ⟨true, mask, none, .empty, []⟩

variable (h : GeofenceHandler)

/-- A client that could not be reached is purged. -/
def sent (rc : Bool) : GeofenceHandler :=
  if rc then h else { h with mIpcSender := false }

def updateSubscription (mask : CallbacksMask) : GeofenceHandler :=
  { h with mSubscriptionMask := mask }

/-- An add, and what `LocationAPI` returns to it if it is called. Without items it is not called, and
the ids of the last add stand for what it would have returned. -/
def addGeofences (clientIds : List ℕ) (returned : Option (List ℕ)) :
    GeofenceHandler × Option GeofenceCall :=
  if h.mIpcSender = false ∨ maxGeofenceCount < clientIds.length then (h, none)
  else
    let ids := if clientIds = [] then h.mGeofenceIds else returned
    match ids with
    | none => ({ h with mGeofenceIds := ids }, none)
    | some sessions =>
      ({ h with
          mGeofenceIds := ids
          mGfIdsMap := setGeofenceIds h.mGfIdsMap clientIds sessions
          mGfPendingMessages := h.mGfPendingMessages ++ [.addGeofences] },
        if clientIds = [] then none else some (.addGeofences, sessions))

/-- The other requests; without items there are no session ids, and nothing is done. -/
def request (msgId : GfMsgID) (clientIds : List ℕ) : GeofenceHandler × Option GeofenceCall :=
  if h.mIpcSender = false ∨ clientIds = [] then (h, none)
  else
    let r := getSessionIds h.mGfIdsMap clientIds
    ({ h with mGfIdsMap := r.1, mGfPendingMessages := h.mGfPendingMessages ++ [msgId] },
      some (msgId, r.2))

def removeGeofences (clientIds : List ℕ) : GeofenceHandler × Option GeofenceCall :=
  h.request .removeGeofences clientIds

/-- Only an add and a modify have a limit. -/
def modifyGeofences (clientIds : List ℕ) : GeofenceHandler × Option GeofenceCall :=
  if maxGeofenceCount < clientIds.length then (h, none)
  else h.request .modifyGeofences clientIds

def pauseGeofences (clientIds : List ℕ) : GeofenceHandler × Option GeofenceCall :=
  h.request .pauseGeofences clientIds

def resumeGeofences (clientIds : List ℕ) : GeofenceHandler × Option GeofenceCall :=
  h.request .resumeGeofences clientIds

/-- The response to the oldest pending message. `itor` is the map in the order of a walk. -/
def onCollectiveResponseCallback (itor : List (ℕ × ℕ)) (errs : List LocationError) (ids : List ℕ)
    (rc : Bool) : GeofenceHandler × Option (GfMsgID × CollectiveRes) :=
  if h.mIpcSender = false then (h, none)
  else
    let pendingMsgId := h.mGfPendingMessages.head?
    let h := { h with mGfPendingMessages := h.mGfPendingMessages.tail }
    if ids = [] then (h, none)
    else
      let res := (getClientIds itor ids).zip errs
      let h := { h with mGfIdsMap := eraseFailed h.mGfIdsMap res }
      match pendingMsgId with
      | none => (h, none)
      | some msgId =>
        let h := if msgId = .removeGeofences then
            { h with mGfIdsMap := eraseGeofenceIds h.mGfIdsMap (res.map Prod.fst) }
          else h
        (h.sent rc, some (msgId, res))

def onGeofenceBreachCb (itor : List (ℕ × ℕ)) (ids : List ℕ) (rc : Bool) :
    GeofenceHandler × Option (List ℕ) :=
  if h.mIpcSender = false ∨ .geofenceBreach ∉ h.mSubscriptionMask ∨ ids = [] then (h, none)
  else (h.sent rc, some (getClientIds itor ids))

variable {h} {clientIds ids : List ℕ} {returned : Option (List ℕ)} {msgId : GfMsgID}
  {itor : List (ℕ × ℕ)} {errs : List LocationError} {rc : Bool}

@[simp] theorem mGfIdsMap_sent (rc : Bool) : (h.sent rc).mGfIdsMap = h.mGfIdsMap := by
  cases rc <;> rfl

@[simp] theorem mGfPendingMessages_sent (rc : Bool) :
    (h.sent rc).mGfPendingMessages = h.mGfPendingMessages := by
  cases rc <;> rfl

/-- An add of a client is refused, goes to `LocationAPI`, or is taken for one that did. -/
theorem addGeofences_cases (hs : h.mIpcSender = true) (clientIds : List ℕ)
    (returned : Option (List ℕ)) :
    ((h.addGeofences clientIds returned).1.mGfIdsMap = h.mGfIdsMap ∧
        (h.addGeofences clientIds returned).1.mGfPendingMessages = h.mGfPendingMessages ∧
        (h.addGeofences clientIds returned).2 = none) ∨
      (clientIds = [] ∧ h.mGeofenceIds ≠ none) ∨
      ∃ sessions, clientIds ≠ [] ∧ clientIds.length ≤ maxGeofenceCount ∧
        returned = some sessions ∧
        (h.addGeofences clientIds returned).1.mGfIdsMap =
          setGeofenceIds h.mGfIdsMap clientIds sessions ∧
        (h.addGeofences clientIds returned).1.mGfPendingMessages =
          h.mGfPendingMessages ++ [.addGeofences] ∧
        (h.addGeofences clientIds returned).2 = some (.addGeofences, sessions) := by
  by_cases hmax : maxGeofenceCount < clientIds.length
  · exact Or.inl (by simp [addGeofences, hmax])
  by_cases hnil : clientIds = []
  · cases hids : h.mGeofenceIds with
    | none => exact Or.inl (by simp [addGeofences, hs, hnil, hids])
    | some sessions => exact Or.inr (Or.inl ⟨hnil, by simp⟩)
  · cases returned with
    | none => exact Or.inl (by simp [addGeofences, hs, hnil, hmax])
    | some sessions =>
      exact Or.inr (Or.inr ⟨sessions, hnil, not_lt.mp hmax, rfl, by simp [addGeofences, hs, hnil, hmax]⟩)

@[simp] theorem mIpcSender_addGeofences (clientIds : List ℕ) (returned : Option (List ℕ)) :
    (h.addGeofences clientIds returned).1.mIpcSender = h.mIpcSender := by
  simp only [addGeofences]
  split
  · rfl
  · split <;> rfl

@[simp] theorem mIpcSender_request (msgId : GfMsgID) (clientIds : List ℕ) :
    (h.request msgId clientIds).1.mIpcSender = h.mIpcSender := by
  rw [request]
  split <;> rfl

/-- A request of a client without items does nothing, any other one looks its ids up. -/
theorem request_of_live (hs : h.mIpcSender = true) (msgId : GfMsgID) (hids : clientIds ≠ []) :
    h.request msgId clientIds =
      ({ h with
          mGfIdsMap := (getSessionIds h.mGfIdsMap clientIds).1
          mGfPendingMessages := h.mGfPendingMessages ++ [msgId] },
        some (msgId, (getSessionIds h.mGfIdsMap clientIds).2)) := by
  simp [request, hs, hids]

/-- What a response erases, and what it says. -/
theorem onCollectiveResponseCallback_of_live (hs : h.mIpcSender = true) {pending : List GfMsgID}
    (hpending : h.mGfPendingMessages = msgId :: pending) (hids : ids ≠ [])
    (itor : List (ℕ × ℕ)) (errs : List LocationError) (rc : Bool) :
    let res := (getClientIds itor ids).zip errs
    let erased := (res.filter fun r ↦ r.2 ≠ .success ∨ msgId = .removeGeofences).map Prod.fst
    let r := h.onCollectiveResponseCallback itor errs ids rc
    (∀ k, r.1.mGfIdsMap.find? k = if k ∈ erased then none else h.mGfIdsMap.find? k) ∧
      r.1.mGfPendingMessages = pending ∧ r.2 = some (msgId, res) := by
  intro res erased r
  by_cases hmsg : msgId = .removeGeofences
  · subst hmsg
    have hr : r = (({ h with
        mGfPendingMessages := pending
        mGfIdsMap := eraseGeofenceIds (eraseFailed h.mGfIdsMap res) (res.map Prod.fst)
          } : GeofenceHandler).sent rc, some (.removeGeofences, res)) := by
      simp [r, res, onCollectiveResponseCallback, hs, hids, hpending]
    refine ⟨fun k ↦ ?_, by simp [hr], by rw [hr]⟩
    have herased : erased = res.map Prod.fst := by simp [erased]
    rw [hr, mGfIdsMap_sent, find?_eraseGeofenceIds, eraseFailed_eq, find?_eraseGeofenceIds, herased]
    by_cases hk : k ∈ res.map Prod.fst
    · rw [if_pos hk, if_pos hk]
    · rw [if_neg hk, if_neg hk, if_neg]
      exact fun hmem ↦ hk (((filter_sublist).map Prod.fst).subset hmem)
  · have hr : r = (({ h with
        mGfPendingMessages := pending
        mGfIdsMap := eraseFailed h.mGfIdsMap res } : GeofenceHandler).sent rc,
          some (msgId, res)) := by
      simp [r, res, onCollectiveResponseCallback, hs, hids, hpending, hmsg]
    refine ⟨fun k ↦ ?_, by simp [hr], by rw [hr]⟩
    have herased : erased = (res.filter fun r ↦ r.2 ≠ .success).map Prod.fst := by
      simp [erased, hmsg]
    rw [hr, mGfIdsMap_sent, eraseFailed_eq, find?_eraseGeofenceIds, herased]

theorem onCollectiveResponseCallback_of_purged (hs : h.mIpcSender = false) :
    h.onCollectiveResponseCallback itor errs ids rc = (h, none) := by
  simp [onCollectiveResponseCallback, hs]

theorem onGeofenceBreachCb_of_purged (hs : h.mIpcSender = false) :
    h.onGeofenceBreachCb itor ids rc = (h, none) := by
  simp [onGeofenceBreachCb, hs]

end GeofenceHandler

/-! ## The client and its geofences -/

/-- An item of a command: a session id, and the id of the client that it was sent for. -/
structure GeofenceItem where
  session : ℕ
  clientId : ℕ
  deriving DecidableEq, Repr

/-- A command on its way, and the items that it is for. -/
structure GeofenceCommand where
  msgId : GfMsgID
  items : List GeofenceItem
  deriving DecidableEq, Repr

/-- A handler, the geofences that exist for its client, and the commands that have not been
answered, the oldest one first. -/
structure GeofenceSystem where
  handler : GeofenceHandler
  geofences : List GeofenceItem
  outstanding : List GeofenceCommand

namespace GeofenceCommand

variable (cmd : GeofenceCommand) (errs : List LocationError)

/-- The geofences that exist after the answer. -/
def apply (geofences : List GeofenceItem) : List GeofenceItem :=
  match cmd.msgId with
  | .addGeofences =>
    geofences ++ ((cmd.items.zip errs).filter fun r ↦ r.2 = .success).map Prod.fst
  | .removeGeofences =>
    geofences.filter fun g ↦ ∀ r ∈ cmd.items.zip errs, r.2 = .success → g.session ≠ r.1.session
  | .modifyGeofences | .pauseGeofences | .resumeGeofences => geofences

/-- The items whose ids the handler erases with the answer. -/
def erased : List GeofenceItem :=
  ((cmd.items.zip errs).filter fun r ↦ r.2 ≠ .success ∨ cmd.msgId = .removeGeofences).map Prod.fst

variable {cmd} {errs} {item : GeofenceItem} {geofences : List GeofenceItem}

theorem mem_items_of_mem_erased (h : item ∈ cmd.erased errs) : item ∈ cmd.items := by
  obtain ⟨r, hr, rfl⟩ := mem_map.mp h
  exact (of_mem_zip (mem_filter.mp hr).1).1

/-- The ids that are erased, as the handler finds them in the response. -/
theorem map_clientId_erased (cmd : GeofenceCommand) (errs : List LocationError) :
    (((cmd.items.map (·.clientId)).zip errs).filter fun r ↦
        r.2 ≠ .success ∨ cmd.msgId = .removeGeofences).map Prod.fst =
      (cmd.erased errs).map (·.clientId) := by
  rw [erased, zip_map_left, filter_map, map_map, map_map]
  rfl

/-- Apart from the items of an add, which come into existence, nothing is new afterwards. -/
theorem apply_sublist (hlen : errs.length = cmd.items.length) (geofences : List GeofenceItem) :
    (cmd.apply errs geofences).Sublist
      (geofences ++ if cmd.msgId = .addGeofences then cmd.items else []) := by
  have hadded : (((cmd.items.zip errs).filter fun r ↦ r.2 = .success).map Prod.fst).Sublist
      cmd.items := by
    refine (filter_sublist.map Prod.fst).trans ?_
    rw [map_fst_zip hlen.ge]
  cases hmsg : cmd.msgId with
  | addGeofences =>
    simpa [apply, hmsg] using hadded
  | removeGeofences => simp [apply, hmsg]
  | modifyGeofences | pauseGeofences | resumeGeofences => simp [apply, hmsg]

/-- What is not there afterwards had its id erased, or shares its session with what had. -/
theorem exists_mem_erased (hlen : errs.length = cmd.items.length)
    (hitem : item ∈ geofences ++ if cmd.msgId = .addGeofences then cmd.items else [])
    (hgone : item ∉ cmd.apply errs geofences) :
    ∃ b ∈ cmd.erased errs, b.session = item.session := by
  cases hmsg : cmd.msgId with
  | addGeofences =>
    have happly : cmd.apply errs geofences =
        geofences ++ ((cmd.items.zip errs).filter fun r ↦ r.2 = .success).map Prod.fst := by
      simp [apply, hmsg]
    rw [happly, mem_append, not_or] at hgone
    rw [hmsg, if_pos rfl] at hitem
    have hmem : item ∈ (cmd.items.zip errs).map Prod.fst := by
      rw [map_fst_zip hlen.ge]
      exact (mem_append.mp hitem).resolve_left hgone.1
    obtain ⟨r, hr, rfl⟩ := mem_map.mp hmem
    refine ⟨r.1, mem_map_of_mem (mem_filter.mpr ⟨hr, ?_⟩), rfl⟩
    have hfailed : r.2 ≠ .success := fun hok ↦
      hgone.2 (mem_map_of_mem (mem_filter.mpr ⟨hr, by simpa using hok⟩))
    simp [hfailed]
  | removeGeofences =>
    simp only [hmsg, reduceCtorEq, if_false, List.append_nil] at hitem
    simp only [apply, hmsg, mem_filter, hitem, true_and, decide_eq_true_eq, not_forall,
      not_not] at hgone
    obtain ⟨r, hr, -, hsession⟩ := hgone
    exact ⟨r.1, mem_map_of_mem (mem_filter.mpr ⟨hr, by simp [hmsg]⟩), hsession.symm⟩
  | modifyGeofences | pauseGeofences | resumeGeofences =>
    simp only [hmsg, reduceCtorEq, if_false, List.append_nil] at hitem
    simp [apply, hmsg, hitem] at hgone

end GeofenceCommand

inductive GeofenceEvent
  /-- An add, with what `LocationAPI` would return for it. -/
  | addGeofences (clientIds : List ℕ) (returned : Option (List ℕ))
  | removeGeofences (clientIds : List ℕ)
  | modifyGeofences (clientIds : List ℕ)
  | pauseGeofences (clientIds : List ℕ)
  | resumeGeofences (clientIds : List ℕ)
  | updateSubscription (mask : CallbacksMask)
  /-- The answer to the oldest command, and whether it could be sent to the client. -/
  | answer (errs : List LocationError) (itor : List (ℕ × ℕ)) (rc : Bool)
  | breach (breached : List GeofenceItem) (itor : List (ℕ × ℕ)) (rc : Bool)
  deriving DecidableEq

/-- What goes to the client, with what it was made from. -/
inductive GeofenceOutput
  | collectiveResp (msgId : GfMsgID) (res : CollectiveRes) (answered : GeofenceCommand)
    (errs : List LocationError)
  | geofenceBreachInd (ids : List ℕ) (breached : List GeofenceItem)
  deriving DecidableEq

namespace GeofenceSystem

def start (mask : CallbacksMask) : GeofenceSystem := ⟨.new mask, [], []⟩

variable (s : GeofenceSystem)

/-- The items that exist or will exist if they are answered with success. -/
def requested : List GeofenceItem :=
  s.geofences ++ (s.outstanding.filter fun cmd ↦ cmd.msgId = .addGeofences).flatMap (·.items)

/-- The session ids are new ones: no geofence has them, and no command is about them. -/
def Fresh (sessions : List ℕ) : Prop :=
  sessions.Nodup ∧ 0 ∉ sessions ∧ (∀ g ∈ s.geofences, g.session ∉ sessions) ∧
    ∀ cmd ∈ s.outstanding, ∀ item ∈ cmd.items, item.session ∉ sessions

instance (sessions : List ℕ) : Decidable (s.Fresh sessions) := inferInstanceAs (Decidable (_ ∧ _))

/-- A call becomes a command for the items of the request. -/
def perform (clientIds : List ℕ) (r : GeofenceHandler × Option GeofenceCall) : GeofenceSystem :=
  match r.2 with
  | none => { s with handler := r.1 }
  | some (msgId, sessions) =>
    { s with
      handler := r.1
      outstanding := s.outstanding ++ [⟨msgId, sessions.zipWith GeofenceItem.mk clientIds⟩] }

/-- The session ids that an add gets are new ones, one for each item. -/
def Granted (clientIds : List ℕ) : Option GeofenceCall → Prop
  | none => True
  | some (_, sessions) => sessions.length = clientIds.length ∧ s.Fresh sessions

instance (clientIds : List ℕ) : ∀ call, Decidable (s.Granted clientIds call)
  | none => inferInstanceAs (Decidable True)
  | some (_, _) => inferInstanceAs (Decidable (_ ∧ _))

def step : GeofenceEvent → Option (GeofenceSystem × List GeofenceOutput)
  | .addGeofences clientIds returned =>
    let r := s.handler.addGeofences clientIds returned
    if s.Granted clientIds r.2 then some (s.perform clientIds r, []) else none
  | .removeGeofences clientIds =>
    some (s.perform clientIds (s.handler.removeGeofences clientIds), [])
  | .modifyGeofences clientIds =>
    some (s.perform clientIds (s.handler.modifyGeofences clientIds), [])
  | .pauseGeofences clientIds =>
    some (s.perform clientIds (s.handler.pauseGeofences clientIds), [])
  | .resumeGeofences clientIds =>
    some (s.perform clientIds (s.handler.resumeGeofences clientIds), [])
  | .updateSubscription mask =>
    some ({ s with handler := s.handler.updateSubscription mask }, [])
  | .answer errs itor rc =>
    match s.outstanding with
    | [] => none
    | cmd :: outstanding =>
      if errs.length = cmd.items.length ∧ itor.Perm s.handler.mGfIdsMap.entries then
        let r := s.handler.onCollectiveResponseCallback itor errs (cmd.items.map (·.session)) rc
        some (⟨r.1, cmd.apply errs s.geofences, outstanding⟩,
          r.2.toList.map fun resp ↦ .collectiveResp resp.1 resp.2 cmd errs)
      else none
  | .breach breached itor rc =>
    if breached ⊆ s.geofences ∧ itor.Perm s.handler.mGfIdsMap.entries then
      let r := s.handler.onGeofenceBreachCb itor (breached.map (·.session)) rc
      some ({ s with handler := r.1 },
        r.2.toList.map fun ids ↦ .geofenceBreachInd ids breached)
    else none

/-! ### When the ids are kept right -/

/-- The session of the item stands in the map for its id alone. Zero is also what a search finds that
finds nothing; it may do so if nothing is erased for it. -/
def Named (erased : List GeofenceItem) (item : GeofenceItem) : Prop :=
  (∀ e ∈ s.handler.mGfIdsMap.entries, e.2 = item.session → e.1 = item.clientId) ∧
    (s.handler.mGfIdsMap.find? item.clientId = some item.session ∨
      item.clientId = 0 ∧ (item ∉ erased ∨ s.handler.mGfIdsMap.find? 0 = none))

instance (erased : List GeofenceItem) (item : GeofenceItem) : Decidable (s.Named erased item) :=
  inferInstanceAs (Decidable (_ ∧ _))

/-- An add that is not refused has items, or no add had any before, and unless it fails its ids are
different ones without a session. -/
def NewIds (clientIds : List ℕ) (returned : Option (List ℕ)) : Prop :=
  clientIds.length ≤ maxGeofenceCount →
    (clientIds = [] → s.handler.mGeofenceIds = none) ∧
      (returned ≠ none → clientIds.Nodup ∧
        ∀ id ∈ clientIds, (s.handler.mGfIdsMap.find? id).getD 0 = 0)

instance (clientIds : List ℕ) (returned : Option (List ℕ)) :
    Decidable (s.NewIds clientIds returned) := inferInstanceAs (Decidable (_ → _))

/-- The answer to a command finds the ids of its items, an item that is erased has no geofence
afterwards, and if no other answer is waited for no id without a session is left. -/
def Answers (errs : List LocationError) (cmd : GeofenceCommand) : Prop :=
  (∀ item ∈ cmd.items, s.Named (cmd.erased errs) item) ∧
    (∀ item ∈ cmd.erased errs, ∀ g ∈ cmd.apply errs s.geofences, g.session ≠ item.session) ∧
    (s.outstanding.tail = [] → ∀ e ∈ s.handler.mGfIdsMap.entries, e.2 = 0 →
      e.1 ∈ (cmd.erased errs).map (·.clientId))

instance (errs : List LocationError) (cmd : GeofenceCommand) : Decidable (s.Answers errs cmd) :=
  inferInstanceAs (Decidable (_ ∧ _))

def Guard : GeofenceEvent → Prop
  | .addGeofences clientIds returned =>
    s.handler.mIpcSender = true → s.NewIds clientIds returned
  | .answer errs _ _ =>
    s.handler.mIpcSender = true → ∀ cmd ∈ s.outstanding.head?, s.Answers errs cmd
  | _ => True

instance : ∀ e, Decidable (s.Guard e)
  | .addGeofences clientIds returned => inferInstanceAs (Decidable (_ → _))
  | .answer errs _ _ => inferInstanceAs (Decidable (_ → _))
  | .removeGeofences _ | .modifyGeofences _ | .pauseGeofences _ | .resumeGeofences _
  | .updateSubscription _ | .breach _ _ _ => inferInstanceAs (Decidable True)

/-- The map has the ids of the geofences that exist, each with its session. -/
def Mapped : Prop :=
  ∀ id n, s.handler.mGfIdsMap.find? id = some n ↔ ⟨n, id⟩ ∈ s.geofences

/-- What goes to the client names its own ids. -/
def OwnIds : GeofenceOutput → Prop
  | .collectiveResp msgId res answered errs =>
    msgId = answered.msgId ∧ res = (answered.items.map (·.clientId)).zip errs
  | .geofenceBreachInd ids breached => ids = breached.map (·.clientId)

/-! ### One command -/

/-- What holds between two commands, while the client is there: the pending messages are those of the
commands, a session is in the map for the geofence that has it or will have it, no command is about
a geofence that is added after it, and ids without a session belong to a command. -/
structure Follows : Prop where
  pending : s.handler.mGfPendingMessages = s.outstanding.map (·.msgId)
  mapped : ∀ id n, n ≠ 0 → (s.handler.mGfIdsMap.find? id = some n ↔ ⟨n, id⟩ ∈ s.requested)
  sessions : (s.requested.map (·.session)).Nodup
  nonzero : ∀ item ∈ s.requested, item.session ≠ 0
  later : s.outstanding.Pairwise fun c d ↦ d.msgId = .addGeofences →
    ∀ a ∈ c.items, ∀ b ∈ d.items, a.session ≠ b.session
  settled : s.outstanding = [] → ∀ id, s.handler.mGfIdsMap.find? id ≠ some 0
  items : ∀ cmd ∈ s.outstanding, cmd.items ≠ []

variable {s} {s' : GeofenceSystem} {cmd : GeofenceCommand} {outstanding : List GeofenceCommand}
  {errs : List LocationError} {item g : GeofenceItem} {clientIds sessions : List ℕ}
  {e : GeofenceEvent} {outs : List GeofenceOutput} {hist : List (Item GeofenceEvent GeofenceOutput)}

theorem Follows.mappedTo (h : s.Follows) (hdone : s.outstanding = []) : s.Mapped := by
  intro id n
  have hreq : s.requested = s.geofences := by simp [requested, hdone]
  by_cases hn : n = 0
  · subst hn
    constructor
    · exact fun hfind ↦ absurd hfind (h.settled hdone id)
    · exact fun hmem ↦ absurd rfl (h.nonzero _ (hreq ▸ hmem))
  · rw [h.mapped id n hn, hreq]

variable {r : GeofenceHandler} {itor : List (ℕ × ℕ)}

/-- Whether the client is there and what it has subscribed to does not matter. -/
theorem Follows.congr (h : s.Follows) (hmap : r.mGfIdsMap = s.handler.mGfIdsMap)
    (hpending : r.mGfPendingMessages = s.handler.mGfPendingMessages) :
    ({ s with handler := r } : GeofenceSystem).Follows where
  pending := hpending.trans h.pending
  mapped id n hn := by
    change r.mGfIdsMap.find? id = some n ↔ _
    rw [hmap]
    exact h.mapped id n hn
  sessions := h.sessions
  nonzero := h.nonzero
  later := h.later
  settled hdone id := by
    change r.mGfIdsMap.find? id ≠ some 0
    rw [hmap]
    exact h.settled hdone id
  items := h.items

/-- An item is known by its session. -/
theorem Follows.eq_of_session (h : s.Follows) (hi : item ∈ s.requested) (hg : g ∈ s.requested)
    (heq : item.session = g.session) : item = g :=
  inj_on_of_nodup_map h.sessions hi hg heq

/-- The owner of a geofence is found in the map, and nobody else. -/
theorem Follows.clientIdOf_eq (h : s.Follows) (hg : g ∈ s.geofences)
    (hperm : itor.Perm s.handler.mGfIdsMap.entries) : clientIdOf itor g.session = g.clientId := by
  have hreq : g ∈ s.requested := mem_append_left _ hg
  have hn := h.nonzero g hreq
  have hfind := (h.mapped g.clientId g.session hn).mpr hreq
  refine HalDaemon.clientIdOf_eq (fun e he heq ↦ ?_)
    (Or.inl (hperm.mem_iff.mpr (find?_eq_some_iff.mp hfind)))
  have hentry : s.handler.mGfIdsMap.find? e.1 = some g.session :=
    find?_eq_some_iff.mpr (heq ▸ hperm.mem_iff.mp he)
  exact congrArg GeofenceItem.clientId
    (h.eq_of_session ((h.mapped e.1 g.session hn).mp hentry) hreq rfl)

/-- A request is a command that is not about geofences still to come. -/
theorem Follows.request (h : s.Follows) (hs : s.handler.mIpcSender = true) {msgId : GfMsgID}
    (hmsg : msgId ≠ .addGeofences) (clientIds : List ℕ) :
    (s.perform clientIds (s.handler.request msgId clientIds)).Follows := by
  by_cases hids : clientIds = []
  · have hidle : s.handler.request msgId clientIds = (s.handler, none) := by
      simp [GeofenceHandler.request, hids]
    rw [hidle]
    exact h
  · rw [GeofenceHandler.request_of_live hs msgId hids]
    have hreq : (s.perform clientIds ({ s.handler with
        mGfIdsMap := (getSessionIds s.handler.mGfIdsMap clientIds).1
        mGfPendingMessages := s.handler.mGfPendingMessages ++ [msgId] },
        some (msgId, (getSessionIds s.handler.mGfIdsMap clientIds).2))).requested =
        s.requested := by
      simp [perform, requested, hmsg]
    constructor
    · simp [perform, h.pending]
    · intro id n hn
      rw [hreq, ← h.mapped id n hn]
      exact find?_getSessionIds hn _ _
    · rw [hreq]
      exact h.sessions
    · rw [hreq]
      exact h.nonzero
    · refine pairwise_append.mpr ⟨h.later, pairwise_singleton _ _, ?_⟩
      intro c _ d hd hadd
      obtain rfl := mem_singleton.mp hd
      exact absurd hadd hmsg
    · simp [perform]
    · intro cmd hcmd
      rcases mem_append.mp hcmd with hcmd | hcmd
      · exact h.items cmd hcmd
      · obtain rfl := mem_singleton.mp hcmd
        rw [Ne, ← length_eq_zero_iff, length_zipWith, length_getSessionIds, Nat.min_self,
          length_eq_zero_iff]
        exact hids

theorem mem_zipWith_item {id n : ℕ} :
    (⟨n, id⟩ : GeofenceItem) ∈ sessions.zipWith GeofenceItem.mk clientIds ↔
      (id, n) ∈ clientIds.zip sessions := by
  induction sessions generalizing clientIds with
  | nil => simp
  | cons n' ns ih => cases clientIds <;> simp [ih, and_comm]

theorem map_session_zipWith (hlen : sessions.length = clientIds.length) :
    (sessions.zipWith GeofenceItem.mk clientIds).map (·.session) = sessions := by
  rw [map_zipWith, ← map_uncurry_zip_eq_zipWith]
  exact map_fst_zip hlen.le

theorem session_mem_of_mem_zipWith (h : item ∈ sessions.zipWith GeofenceItem.mk clientIds) :
    item.session ∈ sessions :=
  (of_mem_zip (mem_zipWith_item.mp h)).2

/-- An add is a command for new geofences. -/
theorem Follows.add (h : s.Follows) {r : GeofenceHandler × Option GeofenceCall}
    (hmap : r.1.mGfIdsMap = setGeofenceIds s.handler.mGfIdsMap clientIds sessions)
    (hpending : r.1.mGfPendingMessages = s.handler.mGfPendingMessages ++ [.addGeofences])
    (hcall : r.2 = some (.addGeofences, sessions)) (hids : clientIds ≠ [])
    (hlen : sessions.length = clientIds.length) (hfresh : s.Fresh sessions)
    (hnodup : clientIds.Nodup)
    (hnew : ∀ id ∈ clientIds, (s.handler.mGfIdsMap.find? id).getD 0 = 0) :
    (s.perform clientIds r).Follows := by
  obtain ⟨hsessions, hzero, hgeofences, houtstanding⟩ := hfresh
  have hperform : s.perform clientIds r = { s with
      handler := r.1
      outstanding := s.outstanding ++
        [⟨.addGeofences, sessions.zipWith GeofenceItem.mk clientIds⟩] } := by
    simp [perform, hcall]
  have hreq : (s.perform clientIds r).requested =
      s.requested ++ sessions.zipWith GeofenceItem.mk clientIds := by
    simp [hperform, requested]
  have hother : ∀ item ∈ s.requested, item.session ∉ sessions := by
    intro item hitem
    rcases mem_append.mp hitem with hitem | hitem
    · exact hgeofences item hitem
    · obtain ⟨cmd, hcmd, hitem⟩ := mem_flatMap.mp hitem
      exact houtstanding cmd (mem_filter.mp hcmd).1 item hitem
  constructor
  · simp [hperform, hpending, h.pending]
  · intro id n hn
    have hmapped : (s.perform clientIds r).handler.mGfIdsMap.find? id = some n ↔
        (id, n) ∈ clientIds.zip sessions ∨ id ∉ clientIds ∧
          s.handler.mGfIdsMap.find? id = some n := by
      rw [hperform, hmap]
      exact find?_setGeofenceIds hnodup _ hlen
    have hold : (id ∉ clientIds ∧ s.handler.mGfIdsMap.find? id = some n) ↔
        s.handler.mGfIdsMap.find? id = some n :=
      ⟨And.right, fun hfind ↦ ⟨fun hid ↦ hn (by simpa [hfind] using hnew id hid), hfind⟩⟩
    rw [hmapped, hold, h.mapped id n hn, hreq, mem_append, mem_zipWith_item, or_comm]
  · rw [hreq, map_append, map_session_zipWith hlen]
    refine nodup_append'.mpr ⟨h.sessions, hsessions, fun n hn hn' ↦ ?_⟩
    obtain ⟨item, hitem, rfl⟩ := mem_map.mp hn
    exact hother item hitem hn'
  · intro item hitem
    rw [hreq] at hitem
    rcases mem_append.mp hitem with hitem | hitem
    · exact h.nonzero item hitem
    · exact fun heq ↦ hzero (heq ▸ session_mem_of_mem_zipWith hitem)
  · rw [hperform]
    refine pairwise_append.mpr ⟨h.later, pairwise_singleton _ _, ?_⟩
    intro c hc d hd _ a ha b hb heq
    obtain rfl := mem_singleton.mp hd
    exact houtstanding c hc a ha (heq ▸ session_mem_of_mem_zipWith hb)
  · simp [hperform]
  · intro cmd hcmd
    rw [hperform] at hcmd
    rcases mem_append.mp hcmd with hcmd | hcmd
    · exact h.items cmd hcmd
    · obtain rfl := mem_singleton.mp hcmd
      rw [Ne, ← length_eq_zero_iff, length_zipWith, hlen, Nat.min_self,
        length_eq_zero_iff]
      exact hids

/-- The response names the ids that the items were sent for. -/
theorem Answers.getClientIds_eq (h : s.Answers errs cmd)
    (hperm : itor.Perm s.handler.mGfIdsMap.entries) :
    getClientIds itor (cmd.items.map (·.session)) = cmd.items.map (·.clientId) := by
  rw [getClientIds, map_map]
  refine map_congr_left fun item hitem ↦ ?_
  obtain ⟨honly, hown⟩ := h.1 item hitem
  refine HalDaemon.clientIdOf_eq (fun e he ↦ honly e (hperm.mem_iff.mp he)) ?_
  rcases hown with hfind | ⟨hzero, -⟩
  · exact Or.inl (hperm.mem_iff.mpr (find?_eq_some_iff.mp hfind))
  · exact Or.inr hzero

/-- The answer to the oldest command. -/
theorem Follows.answer (h : s.Follows) (houtstanding : s.outstanding = cmd :: outstanding)
    (hanswers : s.Answers errs cmd) (hlen : errs.length = cmd.items.length)
    (hmap : ∀ k, r.mGfIdsMap.find? k =
      if k ∈ (cmd.erased errs).map (·.clientId) then none else s.handler.mGfIdsMap.find? k)
    (hpending : r.mGfPendingMessages = outstanding.map (·.msgId)) :
    (⟨r, cmd.apply errs s.geofences, outstanding⟩ : GeofenceSystem).Follows := by
  obtain ⟨hnamed, hgone, hlast⟩ := hanswers
  have hlater := h.later
  rw [houtstanding] at hlater
  obtain ⟨hfirst, hlater⟩ := pairwise_cons.mp hlater
  generalize hadds : (outstanding.filter fun cmd ↦ cmd.msgId = .addGeofences).flatMap (·.items) =
    adds
  have hreq : s.requested =
      (s.geofences ++ if cmd.msgId = .addGeofences then cmd.items else []) ++ adds := by
    by_cases hmsg : cmd.msgId = .addGeofences <;> simp [requested, houtstanding, hmsg, hadds]
  have hreq' : (⟨r, cmd.apply errs s.geofences, outstanding⟩ : GeofenceSystem).requested =
      cmd.apply errs s.geofences ++ adds := by
    rw [requested, hadds]
  have hsub : (cmd.apply errs s.geofences ++ adds).Sublist s.requested := by
    rw [hreq]
    exact (GeofenceCommand.apply_sublist hlen s.geofences).append (List.Sublist.refl _)
  have hkept : ∀ item ∈ cmd.apply errs s.geofences ++ adds, ∀ b ∈ cmd.erased errs,
      item.session ≠ b.session := by
    intro item hitem b hb
    rcases mem_append.mp hitem with hitem | hitem
    · exact hgone b hb item hitem
    · rw [← hadds] at hitem
      obtain ⟨d, hd, hitem⟩ := mem_flatMap.mp hitem
      obtain ⟨hd, hadd⟩ := mem_filter.mp hd
      exact (hfirst d hd (by simpa using hadd) b (GeofenceCommand.mem_items_of_mem_erased hb) item
        hitem).symm
  constructor
  · exact hpending
  · intro id n hn
    change r.mGfIdsMap.find? id = some n ↔ _
    rw [hmap, hreq']
    constructor
    · intro hfind
      split at hfind
      · cases hfind
      · next hid =>
        have hmem := (h.mapped id n hn).mp hfind
        rw [hreq] at hmem
        rcases mem_append.mp hmem with hmem | hmem
        · by_contra hnot
          obtain ⟨b, hb, heq⟩ := GeofenceCommand.exists_mem_erased hlen hmem
            fun hin ↦ hnot (mem_append_left _ hin)
          -- the id is the one that was erased with the session
          have howner : id = b.clientId := (hnamed b (GeofenceCommand.mem_items_of_mem_erased hb)).1
            (id, n) (find?_eq_some_iff.mp hfind) heq.symm
          rw [howner] at hid
          exact hid (mem_map_of_mem hb)
        · exact mem_append_right _ hmem
    · intro hmem
      have hfind := (h.mapped id n hn).mpr (hsub.subset hmem)
      rw [if_neg, hfind]
      intro hid
      obtain ⟨b, hb, rfl⟩ := mem_map.mp hid
      rcases (hnamed b (GeofenceCommand.mem_items_of_mem_erased hb)).2 with hown | ⟨hzero, hnone⟩
      · rw [hfind] at hown
        exact hkept _ hmem b hb (Option.some_inj.mp hown)
      · rw [hzero] at hfind
        rcases hnone with hnot | hnone
        · exact hnot hb
        · rw [hnone] at hfind
          cases hfind
  · rw [hreq']
    exact h.sessions.sublist (hsub.map _)
  · rw [hreq']
    exact fun item hitem ↦ h.nonzero item (hsub.subset hitem)
  · exact hlater
  · intro hdone id hfind
    change r.mGfIdsMap.find? id = some 0 at hfind
    rw [hmap] at hfind
    split at hfind
    · cases hfind
    · next hid =>
      refine hid (hlast ?_ (id, 0) (find?_eq_some_iff.mp hfind) rfl)
      rw [houtstanding]
      exact hdone
  · exact fun c hc ↦ h.items c (houtstanding ▸ mem_cons_of_mem _ hc)

/-! ### The runs -/

theorem handler_perform {r : GeofenceHandler × Option GeofenceCall} :
    (s.perform clientIds r).handler = r.1 := by
  rw [perform]
  split <;> rfl

/-- What a step of a client that is there afterwards keeps, and what it sends. -/
theorem Follows.step (h : s.Follows) (hs : s.handler.mIpcSender = true) (hguard : s.Guard e)
    (hstep : s.step e = some (s', outs)) : s'.Follows ∧ ∀ o ∈ outs, OwnIds o := by
  cases e with
  | addGeofences clientIds returned =>
    simp only [GeofenceSystem.step] at hstep
    split at hstep
    · next hgranted =>
      obtain ⟨rfl, rfl⟩ := some_pair_inj hstep
      refine ⟨?_, by simp⟩
      rcases s.handler.addGeofences_cases hs clientIds returned with
        ⟨hmap, hpending, hcall⟩ | ⟨rfl, hids⟩ |
        ⟨sessions, hids, hmax, rfl, hmap, hpending, hcall⟩
      · have hperform : s.perform clientIds (s.handler.addGeofences clientIds returned) =
            { s with handler := (s.handler.addGeofences clientIds returned).1 } := by
          simp [perform, hcall]
        rw [hperform]
        exact h.congr hmap hpending
      · exact absurd ((hguard hs (by simp)).1 rfl) hids
      · rw [hcall] at hgranted
        obtain ⟨hnodup, hnew⟩ := (hguard hs hmax).2 (by simp)
        exact h.add hmap hpending hcall hids hgranted.1 hgranted.2 hnodup hnew
    · cases hstep
  | removeGeofences clientIds | pauseGeofences clientIds | resumeGeofences clientIds =>
    obtain ⟨rfl, rfl⟩ := some_pair_inj hstep
    exact ⟨h.request hs (by simp) clientIds, by simp⟩
  | modifyGeofences clientIds =>
    obtain ⟨rfl, rfl⟩ := some_pair_inj hstep
    refine ⟨?_, by simp⟩
    rw [GeofenceHandler.modifyGeofences]
    split
    · exact h
    · exact h.request hs (by simp) clientIds
  | updateSubscription mask =>
    obtain ⟨rfl, rfl⟩ := some_pair_inj hstep
    exact ⟨h.congr rfl rfl, by simp⟩
  | answer errs itor rc =>
    simp only [GeofenceSystem.step] at hstep
    split at hstep
    · cases hstep
    · next cmd outstanding houtstanding =>
      split at hstep
      · next hanswer =>
        obtain ⟨hlen, hperm⟩ := hanswer
        obtain ⟨rfl, rfl⟩ := some_pair_inj hstep
        have hanswers : s.Answers errs cmd := hguard hs cmd (by rw [houtstanding]; rfl)
        have hpending : s.handler.mGfPendingMessages = cmd.msgId :: outstanding.map (·.msgId) := by
          rw [h.pending, houtstanding, map_cons]
        have hitems : cmd.items.map (·.session) ≠ [] := by
          simpa using h.items cmd (houtstanding ▸ mem_cons_self)
        obtain ⟨hmap, hrest, hresp⟩ := GeofenceHandler.onCollectiveResponseCallback_of_live hs
          hpending hitems itor errs rc
        rw [hanswers.getClientIds_eq hperm, GeofenceCommand.map_clientId_erased] at hmap
        rw [hanswers.getClientIds_eq hperm] at hresp
        refine ⟨h.answer houtstanding hanswers hlen hmap hrest, fun o ho ↦ ?_⟩
        rw [hresp] at ho
        obtain rfl := mem_singleton.mp ho
        exact ⟨rfl, rfl⟩
      · cases hstep
  | breach breached itor rc =>
    simp only [GeofenceSystem.step] at hstep
    split at hstep
    · next hbreach =>
      obtain ⟨hsub, hperm⟩ := hbreach
      obtain ⟨rfl, rfl⟩ := some_pair_inj hstep
      have hnames : getClientIds itor (breached.map (·.session)) = breached.map (·.clientId) := by
        rw [getClientIds, map_map]
        exact map_congr_left fun g hg ↦ h.clientIdOf_eq (hsub hg) hperm
      rw [GeofenceHandler.onGeofenceBreachCb]
      split
      · exact ⟨h, by simp⟩
      · refine ⟨h.congr (by simp) (by simp), fun o ho ↦ ?_⟩
        obtain rfl := mem_singleton.mp ho
        exact hnames
    · cases hstep

/-- Nothing goes to a client that is purged. -/
theorem step_of_purged (hs : s.handler.mIpcSender = false) (hstep : s.step e = some (s', outs)) :
    s'.handler.mIpcSender = false ∧ outs = [] := by
  have hrequest : ∀ msgId clientIds,
      (s.perform clientIds (s.handler.request msgId clientIds)).handler.mIpcSender = false := by
    intro msgId clientIds
    rw [handler_perform, GeofenceHandler.mIpcSender_request, hs]
  cases e with
  | addGeofences clientIds returned =>
    simp only [GeofenceSystem.step] at hstep
    split at hstep
    · obtain ⟨rfl, rfl⟩ := some_pair_inj hstep
      rw [handler_perform, GeofenceHandler.mIpcSender_addGeofences]
      exact ⟨hs, rfl⟩
    · cases hstep
  | removeGeofences clientIds | pauseGeofences clientIds | resumeGeofences clientIds =>
    obtain ⟨rfl, rfl⟩ := some_pair_inj hstep
    exact ⟨hrequest _ _, rfl⟩
  | modifyGeofences clientIds =>
    obtain ⟨rfl, rfl⟩ := some_pair_inj hstep
    refine ⟨?_, rfl⟩
    rw [GeofenceHandler.modifyGeofences]
    split
    · exact hs
    · exact hrequest _ _
  | updateSubscription mask =>
    obtain ⟨rfl, rfl⟩ := some_pair_inj hstep
    exact ⟨hs, rfl⟩
  | answer errs itor rc =>
    simp only [GeofenceSystem.step, GeofenceHandler.onCollectiveResponseCallback_of_purged hs]
      at hstep
    split at hstep
    · cases hstep
    · split at hstep
      · obtain ⟨rfl, rfl⟩ := some_pair_inj hstep
        exact ⟨hs, rfl⟩
      · cases hstep
  | breach breached itor rc =>
    simp only [GeofenceSystem.step, GeofenceHandler.onGeofenceBreachCb_of_purged hs] at hstep
    split at hstep
    · obtain ⟨rfl, rfl⟩ := some_pair_inj hstep
      exact ⟨hs, rfl⟩
    · cases hstep

theorem follows_start (mask : CallbacksMask) : (start mask).Follows := by
  constructor <;> simp [start, GeofenceHandler.new, requested]

/-- As long as every answer finds the ids of its items, erases no id of a geofence that exists and
leaves none without a session, and every add is of new ids, the map has the geofences of the client
whenever no command is outstanding, and all that the client is told is about its own ids. -/
theorem mapped_of_run {mask : CallbacksMask} (h : Run step Guard (start mask) hist s) :
    (s.handler.mIpcSender = true → s.outstanding = [] → s.Mapped) ∧
      ∀ o ∈ outsOf hist, OwnIds o := by
  have hinv : (s.handler.mIpcSender = true → s.Follows) ∧ ∀ o ∈ outsOf hist, OwnIds o := by
    refine h.invariant
      (I := fun hist s ↦ (s.handler.mIpcSender = true → s.Follows) ∧ ∀ o ∈ outsOf hist, OwnIds o)
      ⟨fun _ ↦ follows_start mask, by simp⟩ ?_
    intro hist s e s' outs ⟨hfollows, houts⟩ hguard hstep
    rw [outsOf_append_entry]
    cases hs : s.handler.mIpcSender with
    | false =>
      obtain ⟨hs', rfl⟩ := step_of_purged hs hstep
      exact ⟨by simp [hs'], by simpa using houts⟩
    | true =>
      obtain ⟨hfollows', houts'⟩ := (hfollows hs).step hs hguard hstep
      refine ⟨fun _ ↦ hfollows', fun o ho ↦ ?_⟩
      rcases mem_append.mp ho with ho | ho
      · exact houts o ho
      · exact houts' o ho
  exact ⟨fun hs hdone ↦ (hinv.1 hs).mappedTo hdone, hinv.2⟩

/-- Two adds, the second of which fails in part, requests that name a known and an unknown id, a
breach, and a remove. -/
theorem mapped_of_run_mixed : ∃ hist s,
    Run step Guard (start {.geofenceBreach}) hist s ∧ s.outstanding = [] ∧
      s.handler.mIpcSender = true ∧ s.Mapped ∧ (∀ o ∈ outsOf hist, OwnIds o) ∧
      s.geofences = [⟨2, 8⟩] ∧ (outsOf hist).length = 6 := by
  obtain ⟨hist, s, hrun, hdone, hs, hgeofences, hlen⟩ :=
    Run.exists_of_runEvents step Guard (start {.geofenceBreach})
    [.addGeofences [7, 8] (some [1, 2]), .addGeofences [9] (some [3]),
      .answer [.success, .success] [(7, 1), (9, 3), (8, 2)] true,
      .answer [.generalFailure] [(7, 1), (9, 3), (8, 2)] true,
      .pauseGeofences [8, 5], .answer [.success, .idUnknown] [(8, 2), (5, 0), (7, 1)] true,
      .breach [⟨1, 7⟩, ⟨2, 8⟩] [(8, 2), (7, 1)] true,
      .modifyGeofences [7], .removeGeofences [7], .answer [.success] [(8, 2), (7, 1)] true,
      .answer [.success] [(7, 1), (8, 2)] true]
    (fun hist s ↦ s.outstanding = [] ∧ s.handler.mIpcSender = true ∧
      s.geofences = [⟨2, 8⟩] ∧ (outsOf hist).length = 6) (by decide +kernel)
  obtain ⟨hmapped, hown⟩ := mapped_of_run hrun
  exact ⟨hist, s, hrun, hdone, hs, hmapped hs hdone, hown, hgeofences, hlen⟩

/-- A modify that fails takes the id of a geofence that goes on to exist out of the map, and the
breach of the geofence is then reported with the id zero. -/
theorem not_mapped : ¬∀ (mask : CallbacksMask) (hist : List (Item GeofenceEvent GeofenceOutput))
    (s : GeofenceSystem), Run step (fun _ _ ↦ True) (start mask) hist s →
      (s.handler.mIpcSender = true → s.outstanding = [] → s.Mapped) ∧
        ∀ o ∈ outsOf hist, OwnIds o := by
  intro h
  obtain ⟨hist, s, hrun, hdone, hs, hfind, hgeofences, -⟩ :=
    Run.exists_of_runEvents step (fun _ _ ↦ True)
    (start {.geofenceBreach})
    [.addGeofences [7] (some [1]), .answer [.success] [(7, 1)] true, .modifyGeofences [7],
      .answer [.generalFailure] [(7, 1)] true, .breach [⟨1, 7⟩] [] true]
    (fun hist s ↦ s.outstanding = [] ∧ s.handler.mIpcSender = true ∧
      s.handler.mGfIdsMap.find? 7 = none ∧ s.geofences = [⟨1, 7⟩] ∧
      .geofenceBreachInd [0] [⟨1, 7⟩] ∈ outsOf hist) (by decide +kernel)
  have hmapped := ((h _ hist s hrun).1 hs hdone 7 1).mpr (by rw [hgeofences]; simp)
  rw [hfind] at hmapped
  cases hmapped

end GeofenceSystem

end MataDevice.HalDaemon
