import MataDevice.Lib.History
import MataDevice.Observer.SetMap

/-!
# The observer of the system

Clients subscribe with `SystemStatusOsObserver` to data items of the framework. It keeps who has
subscribed to what in two maps, one for each direction, and passes on to the framework, through its
subscription object, the items that get their first client or lose their last one. The object may
come later than the first clients.

A request only sends a message to the message task, which processes the messages in their order, so
that a request is one step here. Clients, subscription objects and cached items are pointers; the
null pointer is `none`. The cache is filled by notifications of the framework, of which only this is
kept.
-/

namespace MataDevice.Observer

inductive DataItemId
  | invalid
  | airplaneMode
  | enh
  | gpsState
  | nlpStatus
  | wifiHardwareState
  | networkInfo
  | rilVersion
  | rilServiceInfo
  | rilCellInfo
  | serviceStatus
  | model
  | manufacturer
  | voiceCall
  | assistedGps
  | screenState
  | powerConnectedState
  | timezoneChange
  | timeChange
  | wifiSupplicantStatus
  | shutdownState
  | tac
  | mccmnc
  | btleScan
  | btScan
  | oemGtpUploadTriggerReady
  | maxDataItemId
  | batteryLevel
  | maxDataItemId11
  deriving DecidableEq, Repr

/-- What the observer calls: its subscription object, and clients. -/
inductive Call
  | subscribe (subscriptionObj : ℕ) (l : List DataItemId)
  | unsubscribe (subscriptionObj : ℕ) (l : List DataItemId)
  | requestData (subscriptionObj : ℕ) (l : List DataItemId)
  | notify (client : ℕ) (dataItems : List ℕ)
  deriving DecidableEq, Repr

structure OsObserver where
  mSubscriptionObj : Option ℕ
  mClientToDataItems : LocUnorderedSetMap ℕ DataItemId
  mDataItemToClients : LocUnorderedSetMap DataItemId ℕ
  mDataItemCache : DataItemId → Option ℕ

inductive Request
  | setSubscriptionObj (subscriptionObj : Option ℕ)
  | subscribe (l : List DataItemId) (client : Option ℕ)
  | requestData (l : List DataItemId) (client : Option ℕ)
  | updateSubscription (l : List DataItemId) (client : Option ℕ)
  | unsubscribe (l : List DataItemId) (client : Option ℕ)
  | unsubscribeAll (client : Option ℕ)
  /-- A notification has put an item into the cache. -/
  | updateCache (d : DataItemId) (dataitem : ℕ)
  deriving DecidableEq, Repr

/-- `containerTransfer` from a list to a set. -/
def toSet (l : List DataItemId) : UnorderedSet DataItemId := UnorderedSet.insertAll [] l

@[simp] theorem mem_toSet {l : List DataItemId} {d : DataItemId} : d ∈ toSet l ↔ d ∈ l := by
  simp [toSet]

theorem toSet_ne_nil {l : List DataItemId} (h : l ≠ []) : toSet l ≠ [] := by
  obtain ⟨d, hd⟩ := List.exists_mem_of_ne_nil l h
  exact List.ne_nil_of_mem (mem_toSet.mpr hd)

/-- `containerTransfer` from a set to a list, which it fills from its front. -/
def toList (s : UnorderedSet DataItemId) : List DataItemId := s.reverse

@[simp] theorem mem_toList {s : UnorderedSet DataItemId} {d : DataItemId} : d ∈ toList s ↔ d ∈ s :=
  List.mem_reverse

namespace OsObserver

variable (readErased : DataItemId → DataItemId) (s : OsObserver)

/-- Calls of the subscription object, if there is one. -/
def callFramework (calls : ℕ → List Call) : List Call :=
  match s.mSubscriptionObj with
  | none => []
  | some subscriptionObj => calls subscriptionObj

def sendCachedDataItems (items : UnorderedSet DataItemId) (client : ℕ) : List Call :=
  let dataItems := (items.filterMap s.mDataItemCache).reverse
  if dataItems = [] then [] else [.notify client dataItems]

/-- `SetSubsObj`. -/
def setSubsObj (subscriptionObj : ℕ) : OsObserver × List Call :=
  ({ s with mSubscriptionObj := some subscriptionObj },
    if s.mDataItemToClients.empty then []
    else
      let dis := toList s.mDataItemToClients.getKeys
      [.subscribe subscriptionObj dis, .requestData subscriptionObj dis])

/-- `HandleSubscribeReq`. -/
def handleSubscribeReq (l : List DataItemId) (client : ℕ) (toRequestData : Bool) :
    OsObserver × List Call :=
  let dataItemSet := toSet l
  let (mDataItemToClients, dataItemsToSubscribe) := s.mDataItemToClients.add dataItemSet [client]
  let (mClientToDataItems, _) := s.mClientToDataItems.addKey client dataItemSet
  let s := { s with
    mDataItemToClients := mDataItemToClients, mClientToDataItems := mClientToDataItems }
  (s, s.sendCachedDataItems dataItemSet client ++ s.callFramework fun subscriptionObj ↦
    if toRequestData then [.requestData subscriptionObj l]
    else if dataItemsToSubscribe ≠ [] then
      [.subscribe subscriptionObj (toList dataItemsToSubscribe)]
    else [])

/-- `HandleUpdateSubscriptionReq`. -/
def handleUpdateSubscriptionReq (l : List DataItemId) (client : ℕ) : OsObserver × List Call :=
  let (mClientToDataItems, dataItemSet, goneVals) := s.mClientToDataItems.update client (toSet l)
  let (mDataItemToClients, dataItemsToUnsubscribe, _) :=
    s.mDataItemToClients.trimOrRemove readErased goneVals [client]
  let (mDataItemToClients, dataItemsToSubscribe) := mDataItemToClients.add dataItemSet [client]
  let s := { s with
    mDataItemToClients := mDataItemToClients, mClientToDataItems := mClientToDataItems }
  (s, s.sendCachedDataItems dataItemSet client ++ s.callFramework fun subscriptionObj ↦
    (if dataItemsToSubscribe ≠ [] then [.subscribe subscriptionObj (toList dataItemsToSubscribe)]
      else []) ++
    if dataItemsToUnsubscribe ≠ [] then
      [.unsubscribe subscriptionObj (toList dataItemsToUnsubscribe)]
    else [])

/-- The items that have lost their last client are passed on. -/
def callUnsubscribe (dataItemsToUnsubscribe : UnorderedSet DataItemId) : List Call :=
  s.callFramework fun subscriptionObj ↦
    if dataItemsToUnsubscribe ≠ [] then
      [.unsubscribe subscriptionObj (toList dataItemsToUnsubscribe)]
    else []

/-- `HandleUnsubscribeReq`. The keys that the first map reports are not used. -/
def handleUnsubscribeReq (l : List DataItemId) (client : ℕ) : OsObserver × List Call :=
  let (mClientToDataItems, _, dataItemsUnusedByClient) :=
    s.mClientToDataItems.trimOrRemove id [client] (toSet l)
  let (mDataItemToClients, dataItemsToUnsubscribe, _) :=
    s.mDataItemToClients.trimOrRemove readErased dataItemsUnusedByClient [client]
  let s := { s with
    mDataItemToClients := mDataItemToClients, mClientToDataItems := mClientToDataItems }
  (s, s.callUnsubscribe dataItemsToUnsubscribe)

/-- `HandleUnsubscribeAllReq`. -/
def handleUnsubscribeAllReq (client : ℕ) : OsObserver × List Call :=
  let diByClient := s.mClientToDataItems.getValSet client
  if diByClient ≠ [] then
    let mClientToDataItems := s.mClientToDataItems.remove client
    let (mDataItemToClients, dataItemsToUnsubscribe, _) :=
      s.mDataItemToClients.trimOrRemove readErased diByClient [client]
    let s := { s with
      mDataItemToClients := mDataItemToClients, mClientToDataItems := mClientToDataItems }
    (s, s.callUnsubscribe dataItemsToUnsubscribe)
  else (s, [])

/-- A request with a list is dropped if the list is empty or the client is null. -/
def withClient (l : List DataItemId) (client : Option ℕ)
    (handle : ℕ → OsObserver × List Call) : OsObserver × List Call :=
  match client with
  | none => (s, [])
  | some client => if l = [] then (s, []) else handle client

def request : Request → OsObserver × List Call
  | .setSubscriptionObj none => (s, [])
  | .setSubscriptionObj (some subscriptionObj) => s.setSubsObj subscriptionObj
  | .subscribe l client => s.withClient l client (s.handleSubscribeReq l · false)
  | .requestData l client => s.withClient l client (s.handleSubscribeReq l · true)
  | .updateSubscription l client =>
    s.withClient l client (s.handleUpdateSubscriptionReq readErased l ·)
  | .unsubscribe l client => s.withClient l client (s.handleUnsubscribeReq readErased l ·)
  | .unsubscribeAll none => (s, [])
  | .unsubscribeAll (some client) => s.handleUnsubscribeAllReq readErased client
  | .updateCache d dataitem =>
    ({ s with mDataItemCache := Function.update s.mDataItemCache d (some dataitem) }, [])

def step (r : Request) : Option (OsObserver × List Call) := some (s.request readErased r)

def initial : OsObserver where
  mSubscriptionObj := none
  mClientToDataItems := ⟨∅⟩
  mDataItemToClients := ⟨∅⟩
  mDataItemCache := fun _ ↦ none

end OsObserver

end MataDevice.Observer
