import MataDevice.Observer.Subscriptions

/-!
# Notifications of clients

The framework notifies the observer of a list of data items. The observer keeps the last item of
each kind in its cache, if the system status has taken it, and then calls every client that has
subscribed to an item of which the cache has changed. Whom it calls it reads off one of its maps,
and what it tells a client off the other.

The contents of a data item are only copied and compared, and are a number here. The library that
makes and copies data items is not part of the source; what it does is `DataItemsFactory`, and the
source relies on `copy` to tell whether it has changed anything. The system status is any state that
`eventDataItemNotify` works on. It also returns the contents that the item has then, for the system
status writes its table of networks into the item that it is given.

The vector that the items are collected in starts with as many null pointers as there are items.
-/

namespace MataDevice.Observer

open LocUnorderedSetMap List

/-! ## The notification -/

/-- `IDataItemCore`. -/
structure DataItem where
  id : DataItemId
  value : ℕ
  deriving DecidableEq, Repr

/-- The library of data items. -/
structure DataItemsFactory where
  /-- The contents of a new item, if the library has items with the id. -/
  createNewDataItem : DataItemId → Option ℕ
  /-- The contents after a copy, and whether anything was copied. -/
  copy : (dst src : ℕ) → ℕ × Bool

/-- A new item with the contents of another one. -/
def DataItemsFactory.newCopy (factory : DataItemsFactory) (d : DataItem) : Option ℕ :=
  (factory.createNewDataItem d.id).map fun dataitem ↦ (factory.copy dataitem d.value).1

/-- The null pointers that the vector starts with, and the copies of the items. -/
def DataItemsFactory.dataItemVec (factory : DataItemsFactory) (dlist : List DataItem) :
    List (Option DataItem) :=
  List.replicate dlist.length none ++
    dlist.filterMap fun each ↦ (factory.newCopy each).map fun value ↦ some ⟨each.id, value⟩

/-- The observer together with the system status it has the items recorded by. -/
structure StatusObserver (σ : Type) extends OsObserver where
  mSystemStatus : σ

namespace OsObserver

variable (s : OsObserver)

/-- The clients of any of the items. -/
def clientSet (dataItemIdsToBeSent : UnorderedSet DataItemId) : UnorderedSet ℕ :=
  dataItemIdsToBeSent.foldl (fun clientSet each ↦
    match s.mDataItemToClients.getValSetPtr each with
    | none => clientSet
    | some clients => clientSet.insertAll clients) []

/-- What a client is called with. -/
def notifyClient (dataItemIdsToBeSent : UnorderedSet DataItemId) (client : ℕ) : List Call :=
  s.sendCachedDataItems
    ((s.mClientToDataItems.getValSet client).filter (· ∈ dataItemIdsToBeSent)) client

end OsObserver

namespace StatusObserver

variable {σ : Type} (factory : DataItemsFactory) (eventDataItemNotify : σ → DataItem → σ × ℕ × Bool)

def setCache (o : StatusObserver σ) (d : DataItemId) (dataitem : ℕ) : StatusObserver σ :=
  { o with mDataItemCache := Function.update o.mDataItemCache d (some dataitem) }

theorem setCache_mDataItemCache (o : StatusObserver σ) (d d' : DataItemId) (dataitem : ℕ) :
    (o.setCache d dataitem).mDataItemCache d'
      = if d' = d then some dataitem else o.mDataItemCache d' :=
  Function.update_apply ..

/-- `updateCache`: whether the cache has changed. -/
def updateCache (o : StatusObserver σ) : Option DataItem → StatusObserver σ × Bool
  | none => (o, false)
  | some d =>
    let (mSystemStatus, value, recorded) := eventDataItemNotify o.mSystemStatus d
    let o := { o with mSystemStatus := mSystemStatus }
    let d := { d with value := value }
    if recorded then
      match o.mDataItemCache d.id with
      | none =>
        match factory.newCopy d with
        | none => (o, false)
        | some dataitem => (o.setCache d.id dataitem, true)
      | some cached =>
        let (dataitem, dataItemUpdated) := factory.copy cached d.value
        (o.setCache d.id dataitem, dataItemUpdated)
    else (o, false)

/-- One round of the first loop of `HandleNotify`, on the observer and `dataItemIdsToBeSent`. -/
def updateItem : StatusObserver σ × UnorderedSet DataItemId → Option DataItem →
    StatusObserver σ × UnorderedSet DataItemId
  | (o, dataItemIdsToBeSent), item =>
    let (o, dataItemUpdated) := o.updateCache factory eventDataItemNotify item
    (o, match item with
      | none => dataItemIdsToBeSent
      | some d => if dataItemUpdated then List.insert d.id dataItemIdsToBeSent
        else dataItemIdsToBeSent)

/-- `HandleNotify`. -/
def handleNotify (o : StatusObserver σ) (mDiVec : List (Option DataItem)) :
    StatusObserver σ × List Call :=
  let (o, dataItemIdsToBeSent) := mDiVec.foldl (updateItem factory eventDataItemNotify) (o, [])
  (o, (o.clientSet dataItemIdsToBeSent).flatMap (o.notifyClient dataItemIdsToBeSent))

def notify (o : StatusObserver σ) (dlist : List DataItem) : StatusObserver σ × List Call :=
  if dlist ≠ [] then o.handleNotify factory eventDataItemNotify (factory.dataItemVec dlist)
  else (o, [])

end StatusObserver

/-! ## What has changed -/

section Changes

variable {σ : Type} {factory : DataItemsFactory} {eventDataItemNotify : σ → DataItem → σ × ℕ × Bool}
  {o : StatusObserver σ} {d : DataItemId}

/-- `copy` tells whether the contents have changed. -/
def DataItemsFactory.TellsChanges (factory : DataItemsFactory) : Prop :=
  ∀ dst src, (factory.copy dst src).2 = true ↔ (factory.copy dst src).1 ≠ dst

variable (factory eventDataItemNotify) in
/-- The observer after the items, one after the other. -/
def updated (o : StatusObserver σ) (items : List (Option DataItem)) : StatusObserver σ :=
  items.foldl (fun o item ↦ (o.updateCache factory eventDataItemNotify item).1) o

variable (factory eventDataItemNotify) in
/-- One of the items changes what the cache has of `d`. -/
def Changes (o : StatusObserver σ) (items : List (Option DataItem)) (d : DataItemId) : Prop :=
  ∃ pre item post, items = pre ++ item :: post ∧
    (updated factory eventDataItemNotify o (pre ++ [item])).mDataItemCache d
      ≠ (updated factory eventDataItemNotify o pre).mDataItemCache d

theorem changes_cons {item : Option DataItem} {items : List (Option DataItem)} :
    Changes factory eventDataItemNotify o (item :: items) d ↔
      (o.updateCache factory eventDataItemNotify item).1.mDataItemCache d ≠ o.mDataItemCache d ∨
      Changes factory eventDataItemNotify (o.updateCache factory eventDataItemNotify item).1
        items d := by
  constructor
  · rintro ⟨pre, item', post, heq, hne⟩
    cases pre with
    | nil =>
      obtain ⟨rfl, -⟩ := cons_eq_cons.mp heq
      exact .inl hne
    | cons first pre =>
      obtain ⟨rfl, rfl⟩ := cons_eq_cons.mp heq
      exact .inr ⟨pre, item', post, rfl, hne⟩
  · rintro (hne | ⟨pre, item', post, rfl, hne⟩)
    · exact ⟨[], item, items, rfl, hne⟩
    · exact ⟨item :: pre, item', post, rfl, hne⟩

theorem not_changes_nil : ¬Changes factory eventDataItemNotify o [] d := by
  rintro ⟨pre, item, post, heq, -⟩
  exact append_ne_nil_of_right_ne_nil pre (cons_ne_nil item post) heq.symm

variable (eventDataItemNotify)

/-- An item leaves the cache alone, or puts something there and says whether it is new. -/
theorem updateCache_cases (hcopy : factory.TellsChanges) (item : Option DataItem) :
    (∃ st, o.updateCache factory eventDataItemNotify item
        = ({ o with mSystemStatus := st }, false)) ∨
      ∃ st d dataitem changed, item = some d ∧
        o.updateCache factory eventDataItemNotify item
          = (({ o with mSystemStatus := st } : StatusObserver σ).setCache d.id dataitem, changed) ∧
        (changed = true ↔ some dataitem ≠ o.mDataItemCache d.id) := by
  cases item with
  | none => exact .inl ⟨o.mSystemStatus, rfl⟩
  | some d =>
    rw [StatusObserver.updateCache]
    dsimp only
    split
    · cases hcached : o.mDataItemCache d.id with
      | none =>
        dsimp only
        split
        · exact .inl ⟨_, rfl⟩
        · next dataitem _ => exact .inr ⟨_, d, dataitem, true, rfl, rfl, by simp [hcached]⟩
      | some cached =>
        refine .inr ⟨_, d, _, _, rfl, rfl, ?_⟩
        rw [hcopy, hcached, ne_eq, ne_eq, Option.some_inj]
    · exact .inl ⟨_, rfl⟩

/-- A round of the loop collects the id of the item if the cache has changed. -/
theorem updateItem_spec (hcopy : factory.TellsChanges) (ids : UnorderedSet DataItemId)
    (item : Option DataItem) :
    ∃ o' ids', StatusObserver.updateItem factory eventDataItemNotify (o, ids) item = (o', ids') ∧
      (o.updateCache factory eventDataItemNotify item).1 = o' ∧
      (o'.mClientToDataItems = o.mClientToDataItems ∧
        o'.mDataItemToClients = o.mDataItemToClients) ∧
      (∀ d, o'.mDataItemCache d = o.mDataItemCache d ∨ o'.mDataItemCache d ≠ none) ∧
      ∀ d, d ∈ ids' ↔ d ∈ ids ∨ o'.mDataItemCache d ≠ o.mDataItemCache d := by
  obtain ⟨st, hu⟩ | ⟨st, di, dataitem, changed, rfl, hu, hchanged⟩ :=
    updateCache_cases (o := o) eventDataItemNotify hcopy item
  · refine ⟨{ o with mSystemStatus := st }, ids, ?_, by rw [hu], ⟨rfl, rfl⟩, fun d ↦ .inl rfl,
      by simp⟩
    rw [StatusObserver.updateItem, hu]
    cases item with
    | none => rfl
    | some d => rfl
  · refine ⟨({ o with mSystemStatus := st } : StatusObserver σ).setCache di.id dataitem,
      if changed then List.insert di.id ids else ids, ?_, by rw [hu], ⟨rfl, rfl⟩, fun d ↦ ?_,
      fun d ↦ ?_⟩
    · rw [StatusObserver.updateItem, hu]
    · rw [StatusObserver.setCache_mDataItemCache]
      split
      · exact .inr (Option.some_ne_none dataitem)
      · exact .inl rfl
    · rw [StatusObserver.setCache_mDataItemCache]
      by_cases hd : d = di.id
      · subst hd
        rw [if_pos rfl, ← hchanged]
        split
        · next h => simp [h]
        · next h => simp [h]
      · rw [if_neg hd]
        split
        · simp [hd]
        · simp

theorem foldl_updateItem_spec (hcopy : factory.TellsChanges) (items : List (Option DataItem))
    (ids : UnorderedSet DataItemId) (hids : ∀ d ∈ ids, o.mDataItemCache d ≠ none) :
    ∃ o' ids', items.foldl (StatusObserver.updateItem factory eventDataItemNotify) (o, ids)
        = (o', ids') ∧ updated factory eventDataItemNotify o items = o' ∧
      (o'.mClientToDataItems = o.mClientToDataItems ∧
        o'.mDataItemToClients = o.mDataItemToClients) ∧
      (∀ d ∈ ids', o'.mDataItemCache d ≠ none) ∧
      ∀ d, d ∈ ids' ↔ d ∈ ids ∨ Changes factory eventDataItemNotify o items d := by
  induction items generalizing o ids with
  | nil => exact ⟨o, ids, rfl, rfl, ⟨rfl, rfl⟩, hids, fun d ↦ by simp [not_changes_nil]⟩
  | cons item items ih =>
    obtain ⟨o₁, ids₁, hstep, ho₁, ⟨hclients₁, hitems₁⟩, hcached₁, hmem₁⟩ :=
      updateItem_spec (o := o) eventDataItemNotify hcopy ids item
    have hids₁ : ∀ d ∈ ids₁, o₁.mDataItemCache d ≠ none := by
      intro d hd
      rcases hcached₁ d with hsame | hsome
      · rw [hsame]
        exact hids d (((hmem₁ d).mp hd).resolve_right (not_not.mpr hsame))
      · exact hsome
    obtain ⟨o', ids', hfold, ho', ⟨hclients, hitems⟩, hcached, hmem⟩ := ih ids₁ hids₁
    refine ⟨o', ids', ?_, ?_, ⟨hclients.trans hclients₁, hitems.trans hitems₁⟩, hcached,
      fun d ↦ ?_⟩
    · rw [foldl_cons, hstep, hfold]
    · rw [updated, foldl_cons, ho₁]
      exact ho'
    · rw [hmem, hmem₁, changes_cons, ho₁, or_assoc]

end Changes

/-! ## Who is called -/

section Calls

variable {s : OsObserver} {ids : UnorderedSet DataItemId} {client : ℕ}

/-- The calls of a client. -/
def callsTo (client : ℕ) (calls : List Call) : List Call :=
  calls.filter fun
    | .notify c _ => c = client
    | .subscribe .. | .unsubscribe .. | .requestData .. => false

/-- The union of the sets of the items, on any set of clients that are there already. -/
theorem foldl_clientSet_spec (clients : UnorderedSet ℕ) (hclients : clients.Nodup) :
    ∃ clients', ids.foldl (fun clientSet each ↦
        match s.mDataItemToClients.getValSetPtr each with
        | none => clientSet
        | some clients => UnorderedSet.insertAll clientSet clients) clients = clients' ∧
      clients'.Nodup ∧
      ∀ client, client ∈ clients' ↔
        client ∈ clients ∨ ∃ d ∈ ids, s.mDataItemToClients.Holds d client := by
  induction ids generalizing clients with
  | nil => exact ⟨clients, rfl, hclients, by simp⟩
  | cons each ids ih =>
    rw [foldl_cons]
    cases hl : s.mDataItemToClients.getValSetPtr each with
    | none =>
      obtain ⟨clients', heq, hnodup, hmem⟩ := ih clients hclients
      refine ⟨clients', heq, hnodup, fun client ↦ ?_⟩
      rw [hmem, exists_mem_cons_iff, or_iff_right (not_holds_of_lookup hl)]
    | some new =>
      obtain ⟨clients', heq, hnodup, hmem⟩ := ih _ (UnorderedSet.nodup_insertAll hclients new)
      refine ⟨clients', heq, hnodup, fun client ↦ ?_⟩
      rw [hmem, UnorderedSet.mem_insertAll, exists_mem_cons_iff, holds_of_lookup hl, or_assoc]

theorem mem_clientSet :
    client ∈ s.clientSet ids ↔ ∃ d ∈ ids, s.mDataItemToClients.Holds d client := by
  obtain ⟨clients, heq, -, hmem⟩ := foldl_clientSet_spec [] nodup_nil
  rw [OsObserver.clientSet, heq, hmem, or_iff_right not_mem_nil]

theorem nodup_clientSet (s : OsObserver) (ids : UnorderedSet DataItemId) :
    (s.clientSet ids).Nodup := by
  obtain ⟨clients, heq, hnodup, -⟩ := foldl_clientSet_spec [] nodup_nil
  rw [OsObserver.clientSet, heq]
  exact hnodup

/-- Whatever is sent to a client is a call of this client. -/
theorem callsTo_notifyClient (c : ℕ) :
    callsTo client (s.notifyClient ids c) = if c = client then s.notifyClient ids c else [] := by
  rw [OsObserver.notifyClient, OsObserver.sendCachedDataItems]
  split
  · exact (ite_self _).symm
  · rw [callsTo, filter_singleton, cond_eq_ite]
    simp only [decide_eq_true_eq]

/-- The calls of a client come from its own round of the loop. -/
theorem callsTo_flatMap {clients : List ℕ} (h : clients.Nodup) :
    callsTo client (clients.flatMap (s.notifyClient ids))
      = if client ∈ clients then s.notifyClient ids client else [] := by
  induction clients with
  | nil => rfl
  | cons c clients ih =>
    obtain ⟨hc, h⟩ := nodup_cons.mp h
    have happend : callsTo client ((c :: clients).flatMap (s.notifyClient ids))
        = callsTo client (s.notifyClient ids c)
          ++ callsTo client (clients.flatMap (s.notifyClient ids)) := by
      rw [flatMap_cons, callsTo, filter_append]
      rfl
    rw [happend, callsTo_notifyClient, ih h]
    by_cases heq : c = client
    · subst heq
      simp [hc]
    · simp [heq, Ne.symm heq]

theorem eq_notify_of_mem_notifyClient {call : Call} (h : call ∈ s.notifyClient ids client) :
    ∃ dataItems, call = .notify client dataItems := by
  rw [OsObserver.notifyClient, OsObserver.sendCachedDataItems] at h
  split at h
  · cases h
  · exact ⟨_, mem_singleton.mp h⟩

/-- A client is called with the items it holds of those that are sent, if the cache has them. -/
theorem notifyClient_eq (hdistinct : s.mClientToDataItems.Distinct)
    (hcached : ∀ d ∈ ids, s.mDataItemCache d ≠ none)
    (hholds : ∃ d ∈ ids, s.mClientToDataItems.Holds client d) :
    ∃ (items : List DataItemId) (dataItems : List ℕ), items.Nodup ∧
      (∀ d, d ∈ items ↔ d ∈ ids ∧ s.mClientToDataItems.Holds client d) ∧
      dataItems.map some = items.map s.mDataItemCache ∧
      s.notifyClient ids client = [.notify client dataItems] := by
  set held := (s.mClientToDataItems.getValSet client).filter (· ∈ ids) with hheld
  have hmem : ∀ d, d ∈ held ↔ d ∈ ids ∧ s.mClientToDataItems.Holds client d := by
    intro d
    rw [hheld, mem_filter, decide_eq_true_iff, and_comm]
    rfl
  have hall : (held.filterMap s.mDataItemCache).map some = held.map s.mDataItemCache := by
    rw [map_filterMap_some_eq_filter_map_isSome, filter_eq_self]
    intro v hv
    obtain ⟨d, hd, rfl⟩ := mem_map.mp hv
    exact Option.isSome_iff_ne_none.mpr (hcached d ((hmem d).mp hd).1)
  refine ⟨held.reverse, (held.filterMap s.mDataItemCache).reverse,
    nodup_reverse.mpr ((hdistinct client).filter _), fun d ↦ ?_, ?_, ?_⟩
  · rw [mem_reverse, hmem]
  · rw [map_reverse, map_reverse, hall]
  · rw [OsObserver.notifyClient, OsObserver.sendCachedDataItems]
    refine if_neg fun hnil ↦ ?_
    obtain ⟨d, hd⟩ := hholds
    have hmapnil : held.map s.mDataItemCache = [] := by
      rw [← hall, reverse_eq_nil_iff.mp hnil, map_nil]
    have hdheld := (hmem d).mpr hd
    rw [map_eq_nil_iff.mp hmapnil] at hdheld
    exact not_mem_nil hdheld

end Calls

/-! ## Who has subscribed -/

section Requests

variable {readErased : DataItemId → DataItemId} {s : OsObserver} {client : ℕ} {d : DataItemId}

/-- What a request says of the subscription of a client to an item. -/
def asksOf (client : ℕ) (d : DataItemId) : Item Request Call → Option Bool
  | .event (.subscribe l (some c)) | .event (.requestData l (some c)) =>
    if c = client ∧ d ∈ l then some true else none
  | .event (.updateSubscription l (some c)) =>
    if c = client ∧ l ≠ [] then some (d ∈ l) else none
  | .event (.unsubscribe l (some c)) => if c = client ∧ d ∈ l then some false else none
  | .event (.unsubscribeAll (some c)) => if c = client then some false else none
  | _ => none

/-- The client has asked for the item, and has not unsubscribed since. -/
def SubscribedTo (hist : List (Item Request Call)) (client : ℕ) (d : DataItemId) : Prop :=
  latest (asksOf client d) hist = some true

/-- The client holds the item once it has asked so, if it has asked at all. -/
def After (asked : Option Bool) (held : Prop) : Prop := asked = some true ∨ asked = none ∧ held

variable {hist : List (Item Request Call)} {l : List DataItemId}

theorem subscribedTo_append (r : Request) (calls : List Call) :
    SubscribedTo (hist ++ entry r calls) client d ↔
      After (asksOf client d (.event r)) (SubscribedTo hist client d) := by
  rw [SubscribedTo, latest_append_entry (fun _ ↦ rfl)]
  cases asksOf client d (.event r) with
  | none => simp [After, SubscribedTo]
  | some b => simp [After]

theorem holds_handleSubscribeReq (h : Inverse s) (hl : l ≠ []) (c : ℕ) (toRequestData : Bool) :
    (s.handleSubscribeReq l c toRequestData).1.mClientToDataItems.Holds client d ↔
      s.mClientToDataItems.Holds client d ∨ c = client ∧ d ∈ l := by
  obtain ⟨-, hholds, -⟩ := addKey_spec h.clients c (toSet_ne_nil hl)
  refine (hholds client d).trans ?_
  rw [mem_toSet, eq_comm]

theorem holds_handleUnsubscribeReq (h : Inverse s) (l : List DataItemId) (c : ℕ) :
    (s.handleUnsubscribeReq readErased l c).1.mClientToDataItems.Holds client d ↔
      s.mClientToDataItems.Holds client d ∧ ¬(c = client ∧ d ∈ l) := by
  obtain ⟨-, hholds, -⟩ := trimOrRemove_spec id h.clients [c] (toSet l)
  refine (hholds client d).trans ?_
  rw [mem_singleton, mem_toSet, eq_comm (a := c)]

theorem holds_handleUnsubscribeAllReq (c : ℕ) :
    (s.handleUnsubscribeAllReq readErased c).1.mClientToDataItems.Holds client d ↔
      c ≠ client ∧ s.mClientToDataItems.Holds client d := by
  rw [OsObserver.handleUnsubscribeAllReq]
  split
  · rw [ne_comm]
    exact holds_remove
  · next hnil =>
    -- there is nothing to remove
    refine (and_iff_right_of_imp fun hholds heq ↦ ?_).symm
    rw [Holds, ← heq, not_not.mp hnil] at hholds
    exact not_mem_nil hholds

theorem holds_handleUpdateSubscriptionReq (h : Inverse s) (hl : l ≠ []) (c : ℕ) :
    (s.handleUpdateSubscriptionReq readErased l c).1.mClientToDataItems.Holds client d ↔
      if c = client then d ∈ l else s.mClientToDataItems.Holds client d := by
  obtain ⟨-, hholds, -⟩ := update_spec h.clients c (toSet_ne_nil hl)
  refine (hholds client d).trans ?_
  simp only [mem_toSet, eq_comm (a := c)]

/-- A request with a list does nothing, or is handled. -/
theorem withClient_cases (l : List DataItemId) (client : Option ℕ)
    (handle : ℕ → OsObserver × List Call) :
    ((client = none ∨ l = []) ∧ s.withClient l client handle = (s, [])) ∨
      ∃ c, client = some c ∧ l ≠ [] ∧ s.withClient l client handle = handle c := by
  cases client with
  | none => exact .inl ⟨.inl rfl, rfl⟩
  | some c =>
    by_cases hl : l = []
    · exact .inl ⟨.inr hl, if_pos hl⟩
    · exact .inr ⟨c, rfl, hl, if_neg hl⟩

/-- A request that is dropped says nothing. -/
theorem asksOf_of_dropped {c : Option ℕ} {r : Request}
    (hr : r = .subscribe l c ∨ r = .requestData l c ∨ r = .updateSubscription l c ∨
      r = .unsubscribe l c)
    (h : c = none ∨ l = []) : asksOf client d (.event r) = none := by
  rcases h with rfl | rfl
  · rcases hr with rfl | rfl | rfl | rfl <;> rfl
  · rcases hr with rfl | rfl | rfl | rfl <;> cases c <;> simp [asksOf]

theorem holds_withClient {c : Option ℕ} {handle : ℕ → OsObserver × List Call} {asked : Option Bool}
    (hnone : c = none ∨ l = [] → asked = none)
    (hhandle : ∀ c', c = some c' → l ≠ [] → ((handle c').1.mClientToDataItems.Holds client d ↔
      After asked (s.mClientToDataItems.Holds client d))) :
    (s.withClient l c handle).1.mClientToDataItems.Holds client d ↔
      After asked (s.mClientToDataItems.Holds client d) := by
  obtain ⟨hdropped, heq⟩ | ⟨c', hc, hl, heq⟩ := withClient_cases (s := s) l c handle
  · rw [heq, hnone hdropped]
    simp [After]
  · rw [heq]
    exact hhandle c' hc hl

/-- A request does to the items of a client what it says. -/
theorem holds_request (h : Inverse s) (r : Request) (client : ℕ) (d : DataItemId) :
    (s.request readErased r).1.mClientToDataItems.Holds client d ↔
      After (asksOf client d (.event r)) (s.mClientToDataItems.Holds client d) := by
  have hadded : ∀ l c toRequestData, l ≠ [] →
      ((s.handleSubscribeReq l c toRequestData).1.mClientToDataItems.Holds client d ↔
        After (if c = client ∧ d ∈ l then some true else none)
          (s.mClientToDataItems.Holds client d)) := by
    intro l c toRequestData hl
    rw [holds_handleSubscribeReq h hl]
    split
    · next hask => simp [After, hask]
    · next hask => simp [After, hask]
  cases r with
  | setSubscriptionObj subscriptionObj =>
    cases subscriptionObj with
    | none => simp [After, asksOf, OsObserver.request]
    | some subscriptionObj => simp [After, asksOf, OsObserver.request, OsObserver.setSubsObj]
  | subscribe l c =>
    refine holds_withClient (asksOf_of_dropped (by simp)) fun c' hc hl ↦ ?_
    rw [hc]
    exact hadded l c' false hl
  | requestData l c =>
    refine holds_withClient (asksOf_of_dropped (by simp)) fun c' hc hl ↦ ?_
    rw [hc]
    exact hadded l c' true hl
  | updateSubscription l c =>
    refine holds_withClient (asksOf_of_dropped (by simp)) fun c' hc hl ↦ ?_
    rw [hc, holds_handleUpdateSubscriptionReq h hl, asksOf]
    by_cases hask : c' = client
    · simp [After, hask, hl]
    · simp [After, hask]
  | unsubscribe l c =>
    refine holds_withClient (asksOf_of_dropped (by simp)) fun c' hc hl ↦ ?_
    rw [hc, holds_handleUnsubscribeReq h l, asksOf]
    by_cases hask : c' = client ∧ d ∈ l
    · simp [After, hask]
    · simp [After, hask]
  | unsubscribeAll c =>
    cases c with
    | none => simp [After, asksOf, OsObserver.request]
    | some c =>
      rw [OsObserver.request, holds_handleUnsubscribeAllReq, asksOf]
      by_cases hask : c = client
      · simp [After, hask]
      · simp [After, hask]
  | updateCache d dataitem => simp [After, asksOf, OsObserver.request]

theorem subscribedTo_of_run (h : Run (OsObserver.step readErased) UpdatesFresh .initial hist s) :
    ∀ client d, s.mClientToDataItems.Holds client d ↔ SubscribedTo hist client d := by
  induction h with
  | start => simp [Holds, getValSet, OsObserver.initial, SubscribedTo]
  | @step hist s s' r calls hrun hg hs ih =>
    obtain ⟨rfl, -⟩ := some_pair_inj hs
    intro client d
    rw [subscribedTo_append, ← ih]
    exact holds_request (Inverse.of_run (fun _ _ hg ↦ hg) hrun) r client d

theorem distinct_request (h : s.mClientToDataItems.Distinct) (r : Request) :
    (s.request readErased r).1.mClientToDataItems.Distinct := by
  have htoSet : ∀ l, (toSet l).Nodup := fun l ↦ UnorderedSet.nodup_insertAll nodup_nil l
  have hwith : ∀ l client handle, (∀ c, (handle c).1.mClientToDataItems.Distinct) →
      (s.withClient l client handle).1.mClientToDataItems.Distinct := by
    intro l client handle hhandle
    obtain ⟨-, heq⟩ | ⟨c, -, -, heq⟩ := withClient_cases (s := s) l client handle
    · rwa [heq]
    · rw [heq]
      exact hhandle c
  cases r with
  | setSubscriptionObj subscriptionObj =>
    cases subscriptionObj with
    | none => exact h
    | some subscriptionObj => exact h
  | subscribe l client | requestData l client => exact hwith _ _ _ fun c ↦ h.addKey (htoSet l)
  | updateSubscription l client => exact hwith _ _ _ fun c ↦ h.update (htoSet l)
  | unsubscribe l client =>
    exact hwith _ _ _ fun c ↦ h.trimOrRemove id [c] (toSet l)
  | unsubscribeAll client =>
    cases client with
    | none => exact h
    | some c =>
      rw [OsObserver.request, OsObserver.handleUnsubscribeAllReq]
      split
      · exact h.remove
      · exact h
  | updateCache d dataitem => exact h

theorem distinct_of_run {guard : OsObserver → Request → Prop}
    (h : Run (OsObserver.step readErased) guard .initial hist s) :
    s.mClientToDataItems.Distinct := by
  refine h.invariant (I := fun _ s ↦ s.mClientToDataItems.Distinct) ?_ ?_
  · simp [Distinct, getValSet, OsObserver.initial]
  · intro hist s r s' calls hd _ hs
    obtain ⟨rfl, -⟩ := some_pair_inj hs
    exact distinct_request hd r

end Requests

/-! ## Notifications along runs -/

section Runs

variable {σ : Type} {factory : DataItemsFactory} (eventDataItemNotify : σ → DataItem → σ × ℕ × Bool)
  {readErased : DataItemId → DataItemId} {o : StatusObserver σ}

variable (factory) in
/-- The client has subscribed to the item, and the cache of it changes. -/
def Due (o : StatusObserver σ) (dlist : List DataItem) (hist : List (Item Request Call))
    (client : ℕ) (d : DataItemId) : Prop :=
  Changes factory eventDataItemNotify o (factory.dataItemVec dlist) d ∧ SubscribedTo hist client d

/-- The items put into the cache are requests of the observer, by which no client asks for
anything. -/
theorem exists_run_updated (hcopy : factory.TellsChanges) {hist : List (Item Request Call)}
    (h : Run (OsObserver.step readErased) UpdatesFresh .initial hist o.toOsObserver)
    (items : List (Option DataItem)) :
    ∃ hist', Run (OsObserver.step readErased) UpdatesFresh .initial hist'
        (updated factory eventDataItemNotify o items).toOsObserver ∧
      ∀ client d, SubscribedTo hist' client d ↔ SubscribedTo hist client d := by
  induction items generalizing o hist with
  | nil => exact ⟨hist, h, fun _ _ ↦ Iff.rfl⟩
  | cons item items ih =>
    rw [updated, foldl_cons]
    obtain ⟨st, hu⟩ | ⟨st, di, dataitem, changed, -, hu, -⟩ :=
      updateCache_cases (o := o) eventDataItemNotify hcopy item
    · rw [hu]
      exact ih (o := { o with mSystemStatus := st }) h
    · rw [hu]
      have hnext : Run (OsObserver.step readErased) UpdatesFresh .initial
          (hist ++ entry (.updateCache di.id dataitem) [])
          (({ o with mSystemStatus := st } : StatusObserver σ).setCache di.id
            dataitem).toOsObserver := h.step trivial rfl
      obtain ⟨hist', hrun, hsub⟩ := ih hnext
      refine ⟨hist', hrun, fun client d ↦ (hsub client d).trans ?_⟩
      rw [subscribedTo_append]
      simp [After, asksOf]

/-- **Notifications reach their subscribers.** In every state that requests lead to, and for every
list of items, a client that has subscribed to an item of which the cache changes is called once,
with all the items it has subscribed to of which the cache changes, each once and as it is in the
cache in the end. No other client is called, and nothing else is. What follows the notification is a
run of requests again, with the same subscriptions. -/
theorem notify_of_run (hcopy : factory.TellsChanges) {hist : List (Item Request Call)}
    (h : Run (OsObserver.step readErased) UpdatesFresh .initial hist o.toOsObserver)
    (dlist : List DataItem) :
    ∃ o' calls, o.notify factory eventDataItemNotify dlist = (o', calls) ∧
      (∀ client, (∃ d, Due factory eventDataItemNotify o dlist hist client d) →
        ∃ (items : List DataItemId) (dataItems : List ℕ), items.Nodup ∧
          (∀ d, d ∈ items ↔ Due factory eventDataItemNotify o dlist hist client d) ∧
          dataItems.map some = items.map o'.mDataItemCache ∧
          callsTo client calls = [.notify client dataItems]) ∧
      (∀ client, (¬∃ d, Due factory eventDataItemNotify o dlist hist client d) →
        callsTo client calls = []) ∧
      (∀ call ∈ calls, ∃ client dataItems, call = .notify client dataItems) ∧
      ∃ hist', Run (OsObserver.step readErased) UpdatesFresh .initial hist' o'.toOsObserver ∧
        ∀ client d, SubscribedTo hist' client d ↔ SubscribedTo hist client d := by
  by_cases hnil : dlist = []
  · refine ⟨o, [], if_neg (not_not.mpr hnil), fun client ⟨d, hdue⟩ ↦ ?_, fun client _ ↦ rfl,
      by simp, hist, h, fun _ _ ↦ Iff.rfl⟩
    rw [Due, hnil] at hdue
    exact absurd hdue.1 not_changes_nil
  · have hinv := Inverse.of_run (fun _ _ hg ↦ hg) h
    obtain ⟨o', ids, hfold, ho', ⟨hclients, hitems⟩, hcached, hmem⟩ :=
      foldl_updateItem_spec (o := o) eventDataItemNotify hcopy
        (factory.dataItemVec dlist) [] (by simp)
    have hdue : ∀ client d, d ∈ ids ∧ o'.mClientToDataItems.Holds client d ↔
        Due factory eventDataItemNotify o dlist hist client d := by
      intro client d
      rw [hmem, hclients, subscribedTo_of_run h, or_iff_right not_mem_nil]
      rfl
    have hcalled : ∀ client, client ∈ o'.clientSet ids ↔
        ∃ d, Due factory eventDataItemNotify o dlist hist client d := by
      intro client
      rw [mem_clientSet]
      refine exists_congr fun d ↦ ?_
      rw [← hdue, hclients, hitems, hinv.inverse]
    have hcallsTo : ∀ client, callsTo client ((o'.clientSet ids).flatMap (o'.notifyClient ids))
        = if client ∈ o'.clientSet ids then o'.notifyClient ids client else [] :=
      fun client ↦ callsTo_flatMap (nodup_clientSet o'.toOsObserver ids)
    refine ⟨o', (o'.clientSet ids).flatMap (o'.notifyClient ids), ?_, fun client hclient ↦ ?_,
      fun client hclient ↦ ?_, fun call hcall ↦ ?_, ?_⟩
    · rw [StatusObserver.notify, if_pos hnil, StatusObserver.handleNotify, hfold]
    · have hdistinct : o'.mClientToDataItems.Distinct := hclients ▸ distinct_of_run h
      have hholds : ∃ d ∈ ids, o'.mClientToDataItems.Holds client d :=
        hclient.imp fun d ↦ (hdue client d).mpr
      obtain ⟨items, dataItems, hnodup, hitem, hnewest, heq⟩ :=
        notifyClient_eq hdistinct hcached hholds
      refine ⟨items, dataItems, hnodup, fun d ↦ (hitem d).trans (hdue client d), hnewest, ?_⟩
      rw [hcallsTo, if_pos ((hcalled client).mpr hclient), heq]
    · rw [hcallsTo, if_neg (mt (hcalled client).mp hclient)]
    · obtain ⟨client, -, hcall⟩ := mem_flatMap.mp hcall
      exact ⟨client, eq_notify_of_mem_notifyClient hcall⟩
    · rw [← ho']
      exact exists_run_updated eventDataItemNotify hcopy h (factory.dataItemVec dlist)

/-- Items that start at zero and are copied when they differ. -/
def plainFactory : DataItemsFactory where
  createNewDataItem := fun _ ↦ some 0
  copy := fun dst src ↦ (src, src ≠ dst)

/-- A system status that takes an item if it differs from the last one with its id. -/
def recordNew (last : DataItemId → Option ℕ) (d : DataItem) :
    (DataItemId → Option ℕ) × ℕ × Bool :=
  (Function.update last d.id (some d.value), d.value, last d.id ≠ some d.value)

/-- Two items of the same kind in one notification, for which there is one call. -/
theorem notify_of_run_twice :
    ∃ (hist : List (Item Request Call)) (o o' : StatusObserver (DataItemId → Option ℕ))
      (calls : List Call) (dataItems : List ℕ),
      Run (OsObserver.step id) UpdatesFresh .initial hist o.toOsObserver ∧
      o.notify plainFactory recordNew [⟨.gpsState, 5⟩, ⟨.gpsState, 6⟩] = (o', calls) ∧
      callsTo 1 calls = [.notify 1 dataItems] := by
  obtain ⟨hist, s, hrun, hsub, hchanged⟩ :=
    Run.exists_of_runEvents (OsObserver.step id) UpdatesFresh .initial
    [.subscribe [.gpsState, .tac] (some 1), .subscribe [.tac] (some 2)]
    (fun hist s ↦ latest (asksOf 1 .gpsState) hist = some true ∧
      (updated plainFactory recordNew ⟨s, fun _ ↦ none⟩
          ([none, none] ++ [some ⟨.gpsState, 5⟩])).mDataItemCache .gpsState
        ≠ (updated plainFactory recordNew ⟨s, fun _ ↦ none⟩ [none, none]).mDataItemCache .gpsState)
    (by decide +kernel)
  have hcopy : plainFactory.TellsChanges := fun _ _ ↦ decide_eq_true_iff
  obtain ⟨o', calls, hnotify, hcalled, -⟩ := notify_of_run recordNew
    (o := ⟨s, fun _ ↦ none⟩) hcopy hrun [⟨.gpsState, 5⟩, ⟨.gpsState, 6⟩]
  obtain ⟨-, dataItems, -, -, -, hcalls⟩ := hcalled 1
    ⟨.gpsState, ⟨[none, none], some ⟨.gpsState, 5⟩, [some ⟨.gpsState, 6⟩], rfl, hchanged⟩, hsub⟩
  exact ⟨hist, _, o', calls, dataItems, hrun, hnotify, hcalls⟩

end Runs

end MataDevice.Observer
