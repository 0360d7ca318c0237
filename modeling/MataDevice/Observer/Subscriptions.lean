import MataDevice.Observer.OsObserver

/-!
# Subscriptions of clients and of the observer

The two maps of the observer should be inverse to each other, and while there is a subscription
object, the items that the framework has been told to subscribe to should be the keys of one of
them.

The first is true as long as `updateSubscription` is only used by clients that hold nothing. The map
of a client's items reports the items that the old and the new set have in common, where the ones
that are gone are expected, and the other map loses what the client keeps and keeps what it loses.

The second is true as long as `requestData` does not name an item that no client has yet. Such an
item gets into the maps, but the framework is only asked for its data; whoever subscribes next finds
it there.
-/

namespace MataDevice.Observer

open LocUnorderedSetMap List

variable {readErased : DataItemId → DataItemId} {s : OsObserver}

/-! ## The two maps -/

/-- The maps are inverse to each other and hold no empty sets. -/
structure Inverse (s : OsObserver) : Prop where
  clients : s.mClientToDataItems.Clean
  items : s.mDataItemToClients.Clean
  inverse : ∀ client d, s.mClientToDataItems.Holds client d ↔ s.mDataItemToClients.Holds d client

/-- A client updates its subscription only while it holds nothing. -/
def UpdatesFresh (s : OsObserver) : Request → Prop
  | .updateSubscription l (some client) => l ≠ [] → s.mClientToDataItems.getValSet client = []
  | _ => True

instance (s : OsObserver) : DecidablePred (UpdatesFresh s)
  | .updateSubscription _ (some _) => inferInstanceAs (Decidable (_ → _))
  | .updateSubscription _ none | .setSubscriptionObj _ | .subscribe .. | .requestData ..
  | .unsubscribe .. | .unsubscribeAll _ | .updateCache .. => .isTrue trivial

namespace Inverse

theorem initial : Inverse .initial where
  clients := by simp [Clean, OsObserver.initial]
  items := by simp [Clean, OsObserver.initial]
  inverse := by simp [Holds, getValSet, OsObserver.initial]

variable (h : Inverse s)
include h

/-- The maps are all that matters. -/
theorem congr {s' : OsObserver} (hclients : s'.mClientToDataItems = s.mClientToDataItems)
    (hitems : s'.mDataItemToClients = s.mDataItemToClients) : Inverse s' where
  clients := hclients ▸ h.clients
  items := hitems ▸ h.items
  inverse := by
    rw [hclients, hitems]
    exact h.inverse

variable {l : List DataItemId}

theorem handleSubscribeReq (hl : l ≠ []) (client : ℕ)
    (toRequestData : Bool) : Inverse (s.handleSubscribeReq l client toRequestData).1 := by
  obtain ⟨hcleanD, hholdsD, -⟩ := add_spec h.items (toSet l) (cons_ne_nil client [])
  obtain ⟨hcleanC, hholdsC, -⟩ := addKey_spec h.clients client (toSet_ne_nil hl)
  refine ⟨hcleanC, hcleanD, fun c d ↦ ?_⟩
  dsimp only [OsObserver.handleSubscribeReq]
  rw [hholdsC, hholdsD, h.inverse, mem_singleton, and_comm]

theorem handleUnsubscribeReq (l : List DataItemId) (client : ℕ) :
    Inverse (s.handleUnsubscribeReq readErased l client).1 := by
  obtain ⟨hcleanC, hholdsC, -, hvals⟩ := trimOrRemove_spec id h.clients [client] (toSet l)
  obtain ⟨hcleanD, hholdsD, -⟩ := trimOrRemove_spec readErased h.items
    (s.mClientToDataItems.trimOrRemove id [client] (toSet l)).2.2 [client]
  refine ⟨hcleanC, hcleanD, fun c d ↦ ?_⟩
  dsimp only [OsObserver.handleUnsubscribeReq]
  rw [hholdsC, hholdsD, hvals, ← h.inverse]
  simp only [mem_singleton, exists_eq_left]
  by_cases hc : c = client
  · rw [hc]
    tauto
  · simp [hc]

theorem handleUnsubscribeAllReq (client : ℕ) :
    Inverse (s.handleUnsubscribeAllReq readErased client).1 := by
  rw [OsObserver.handleUnsubscribeAllReq]
  split
  · obtain ⟨hcleanD, hholdsD, -⟩ := trimOrRemove_spec readErased h.items
      (s.mClientToDataItems.getValSet client) [client]
    refine ⟨h.clients.remove, hcleanD, fun c d ↦ ?_⟩
    have hall : d ∈ s.mClientToDataItems.getValSet client ↔ s.mClientToDataItems.Holds client d :=
      Iff.rfl
    rw [hholdsD, holds_remove, ← h.inverse, mem_singleton, hall]
    by_cases hc : c = client
    · rw [hc]
      tauto
    · simp [hc]
  · exact h

/-- The items of a client that updates its subscription are the ones it asked for, but they come
into the other map as they should only if the client held nothing. -/
theorem handleUpdateSubscriptionReq (hl : l ≠ []) (client : ℕ) :
    Inverse (s.handleUpdateSubscriptionReq readErased l client).1 ↔
      s.mClientToDataItems.getValSet client = [] := by
  obtain ⟨hcleanC, hholdsC, hnew, hgone⟩ := update_spec h.clients client (toSet_ne_nil hl)
  obtain ⟨hcleanT, hholdsT, -⟩ := trimOrRemove_spec readErased h.items
    (s.mClientToDataItems.update client (toSet l)).2.2 [client]
  obtain ⟨hcleanD, hholdsD, -⟩ := add_spec hcleanT
    (s.mClientToDataItems.update client (toSet l)).2.1 (cons_ne_nil client [])
  have hC : ∀ c d, (s.handleUpdateSubscriptionReq readErased l client).1.mClientToDataItems.Holds
      c d ↔ if c = client then d ∈ l else s.mClientToDataItems.Holds c d := by
    intro c d
    rw [← mem_toSet]
    exact hholdsC c d
  have hD : ∀ c d, (s.handleUpdateSubscriptionReq readErased l client).1.mDataItemToClients.Holds
      d c ↔ if c = client then ¬(d ∈ l ↔ s.mClientToDataItems.Holds c d)
        else s.mClientToDataItems.Holds c d := by
    intro c d
    refine (hholdsD d c).trans ?_
    rw [hholdsT, hgone, hnew, mem_singleton, mem_toSet, ← h.inverse]
    split
    · next hc =>
      rw [hc]
      tauto
    · next hc => simp [hc]
  constructor
  · intro hinv
    refine eq_nil_iff_forall_not_mem.mpr fun d hd ↦ ?_
    have hiff := hinv.inverse client d
    rw [hC, hD, if_pos rfl, if_pos rfl] at hiff
    have hheld : s.mClientToDataItems.Holds client d := hd
    tauto
  · intro hnil
    refine ⟨hcleanC, hcleanD, fun c d ↦ ?_⟩
    rw [hC, hD]
    split
    · next hc =>
      have hnot : ¬s.mClientToDataItems.Holds c d := by
        rw [hc, Holds, hnil]
        exact not_mem_nil
      tauto
    · rfl

theorem withClient {client : Option ℕ} {handle : ℕ → OsObserver × List Call}
    (hhandle : ∀ c, client = some c → l ≠ [] → Inverse (handle c).1) :
    Inverse (s.withClient l client handle).1 := by
  cases client with
  | none => exact h
  | some client =>
    rw [OsObserver.withClient.eq_def]
    dsimp only
    split
    · exact h
    · next hl => exact hhandle client rfl hl

theorem request {r : Request} (hg : UpdatesFresh s r) :
    Inverse (s.request readErased r).1 := by
  cases r with
  | setSubscriptionObj subscriptionObj =>
    cases subscriptionObj with
    | none => exact h
    | some subscriptionObj => exact h.congr rfl rfl
  | subscribe l client => exact h.withClient fun c _ hl ↦ h.handleSubscribeReq hl c false
  | requestData l client => exact h.withClient fun c _ hl ↦ h.handleSubscribeReq hl c true
  | updateSubscription l client =>
    refine h.withClient fun c hc hl ↦ (h.handleUpdateSubscriptionReq hl c).mpr ?_
    rw [hc] at hg
    exact hg hl
  | unsubscribe l client => exact h.withClient fun c _ _ ↦ h.handleUnsubscribeReq l c
  | unsubscribeAll client =>
    cases client with
    | none => exact h
    | some client => exact h.handleUnsubscribeAllReq client
  | updateCache d dataitem => exact h.congr rfl rfl

end Inverse

variable {hist : List (Item Request Call)}

/-- The maps stay inverse in every run in which clients that hold something do not update. -/
theorem Inverse.of_run {guard : OsObserver → Request → Prop}
    (hguard : ∀ s r, guard s r → UpdatesFresh s r)
    (h : Run (OsObserver.step readErased) guard .initial hist s) : Inverse s := by
  refine h.invariant (I := fun _ s ↦ Inverse s) .initial ?_
  intro hist s r s' calls hinv hg hs
  obtain ⟨rfl, -⟩ := some_pair_inj hs
  exact hinv.request (hguard s r hg)

/-- **The maps of the observer are inverse.** In every run in which a client updates its
subscription only while it holds nothing, an item is among those of a client if and only if the
client is among those of the item, no key of either map has an empty set, and after an update the
items of the client are those it asked for. The condition cannot be done without: an update by a
client that holds something never leaves the maps inverse. -/
theorem inverse_of_run {hist : List (Item Request Call)}
    (h : Run (OsObserver.step readErased) UpdatesFresh .initial hist s) :
    (∀ client d, d ∈ s.mClientToDataItems.getValSet client ↔
      client ∈ s.mDataItemToClients.getValSet d) ∧
    (∀ client items, s.mClientToDataItems.mMap.lookup client = some items → items ≠ []) ∧
    (∀ d clients, s.mDataItemToClients.mMap.lookup d = some clients → clients ≠ []) ∧
    ∀ l client, l ≠ [] →
      (∀ d, d ∈ (s.request readErased
          (.updateSubscription l (some client))).1.mClientToDataItems.getValSet client ↔ d ∈ l) ∧
      (Inverse (s.request readErased (.updateSubscription l (some client))).1 ↔
        s.mClientToDataItems.getValSet client = []) := by
  have hinv := Inverse.of_run (fun _ _ hg ↦ hg) h
  refine ⟨hinv.inverse, hinv.clients, hinv.items, fun l client hl ↦ ?_⟩
  have hreq : s.request readErased (.updateSubscription l (some client))
      = s.handleUpdateSubscriptionReq readErased l client := if_neg hl
  rw [hreq]
  refine ⟨fun d ↦ ?_, hinv.handleUpdateSubscriptionReq hl client⟩
  obtain ⟨-, hholds, -⟩ := update_spec hinv.clients client (toSet_ne_nil hl)
  refine (hholds client d).trans ?_
  rw [if_pos rfl, mem_toSet]

/-- Two clients, one of which updates a subscription it does not have yet. -/
theorem inverse_of_run_two :
    ∃ hist s, Run (OsObserver.step id) UpdatesFresh .initial hist s ∧
      .tac ∈ s.mClientToDataItems.getValSet 2 ∧ 2 ∈ s.mDataItemToClients.getValSet .tac := by
  obtain ⟨hist, s, hrun, hs⟩ := Run.exists_of_runEvents (OsObserver.step id) UpdatesFresh .initial
    [.subscribe [.gpsState, .tac] (some 1), .updateSubscription [.tac, .enh] (some 2),
      .unsubscribe [.tac] (some 1)]
    (fun _ s ↦ DataItemId.tac ∈ s.mClientToDataItems.getValSet 2) (by decide +kernel)
  exact ⟨hist, s, hrun, hs, ((inverse_of_run hrun).1 2 .tac).mp hs⟩

/-- A client that has subscribed to one item updates its subscription to another one, and stays
among the clients of the first. -/
theorem not_inverse_of_update :
    ∃ hist s, Run (OsObserver.step id) (fun _ _ ↦ True) .initial hist s ∧
      ¬∀ client d, d ∈ s.mClientToDataItems.getValSet client ↔
        client ∈ s.mDataItemToClients.getValSet d := by
  obtain ⟨hist, s, hrun, hs⟩ := Run.exists_of_runEvents (OsObserver.step id) (fun _ _ ↦ True)
    .initial [.subscribe [.gpsState] (some 1), .updateSubscription [.tac] (some 1)]
    (fun _ s ↦ DataItemId.gpsState ∉ s.mClientToDataItems.getValSet 1 ∧
      1 ∈ s.mDataItemToClients.getValSet .gpsState) (by decide +kernel)
  exact ⟨hist, s, hrun, fun hall ↦ hs.1 ((hall 1 .gpsState).mpr hs.2)⟩

/-! ## The framework -/

/-- What a call tells the framework of an item. -/
def toldOf (d : DataItemId) : Item Request Call → Option Bool
  | .out (.subscribe _ l) => if d ∈ l then some true else none
  | .out (.unsubscribe _ l) => if d ∈ l then some false else none
  | .out (.requestData ..) | .out (.notify ..) | .event _ => none

/-- The framework was told to subscribe to the item, and not to unsubscribe since. -/
def Subscribed (hist : List (Item Request Call)) (d : DataItemId) : Prop :=
  latest (toldOf d) hist = some true

/-- Data is requested only of items that have clients, once there is a subscription object, and
subscriptions are not updated. -/
def RequestsKnown (s : OsObserver) : Request → Prop
  | .updateSubscription .. => False
  | .requestData l (some _) =>
    s.mSubscriptionObj ≠ none → ∀ d ∈ l, d ∈ s.mDataItemToClients.getKeys
  | _ => True

instance (s : OsObserver) : DecidablePred (RequestsKnown s)
  | .updateSubscription .. => .isFalse not_false
  | .requestData _ (some _) => inferInstanceAs (Decidable (_ → _))
  | .requestData _ none | .setSubscriptionObj _ | .subscribe ..
  | .unsubscribe .. | .unsubscribeAll _ | .updateCache .. => .isTrue trivial

/-- What the calls of a step tell the framework of an item, in the end. -/
def told (d : DataItemId) (calls : List Call) : Option Bool := latest (toldOf d) (calls.map .out)

variable {d : DataItemId}

theorem latest_append_calls (hist : List (Item Request Call)) (r : Request) (calls : List Call) :
    latest (toldOf d) (hist ++ entry r calls) = (told d calls).or (latest (toldOf d) hist) := by
  rw [append_entry, latest_append, latest_concat]
  rfl

theorem told_append (calls calls' : List Call) :
    told d (calls ++ calls') = (told d calls').or (told d calls) := by
  rw [told, map_append, latest_append]
  rfl

theorem told_sendCachedDataItems (items : UnorderedSet DataItemId) (client : ℕ) :
    told d (s.sendCachedDataItems items client) = none := by
  rw [OsObserver.sendCachedDataItems]
  split <;> rfl

theorem told_singleton (call : Call) : told d [call] = toldOf d (.out call) := by
  rw [told, map_singleton, latest_singleton]

theorem told_callUnsubscribe (gone : UnorderedSet DataItemId) :
    told d (s.callUnsubscribe gone)
      = if s.mSubscriptionObj ≠ none ∧ d ∈ gone then some false else none := by
  rw [OsObserver.callUnsubscribe, OsObserver.callFramework.eq_def]
  cases s.mSubscriptionObj with
  | none => simp [told]
  | some subscriptionObj =>
    dsimp only
    split
    · simp [told_singleton, toldOf]
    · next hnil => simp [told, not_not.mp hnil]

theorem subscribed_append {r : Request} {calls : List Call} :
    Subscribed (hist ++ entry r calls) d ↔
      told d calls = some true ∨ told d calls = none ∧ Subscribed hist d := by
  rw [Subscribed, latest_append_calls]
  cases told d calls with
  | none => simp [Subscribed]
  | some b => simp

/-- The framework has been told of the keys, as far as there is a subscription object. -/
def Mirrored (hist : List (Item Request Call)) (s : OsObserver) : Prop :=
  ∀ d, Subscribed hist d ↔
    s.mSubscriptionObj ≠ none ∧ ∃ client, s.mDataItemToClients.Holds d client

namespace Mirrored

variable {hist : List (Item Request Call)} {r : Request}

variable (h : Mirrored hist s)
include h

variable {s' : OsObserver}

/-- A step that tells the framework of the items that have got their first client or lost their
last one. -/
theorem step {calls : List Call} (hobj : s'.mSubscriptionObj = s.mSubscriptionObj)
    (htold : ∀ d, s.mSubscriptionObj ≠ none →
      ((∃ client, s'.mDataItemToClients.Holds d client) ↔
        told d calls = some true ∨
          told d calls = none ∧ ∃ client, s.mDataItemToClients.Holds d client))
    (hnone : ∀ d, s.mSubscriptionObj = none → told d calls = none) :
    Mirrored (hist ++ entry r calls) s' := by
  intro d
  rw [subscribed_append, h d, hobj]
  by_cases hset : s.mSubscriptionObj = none
  · simp [hset, hnone d hset]
  · simp [hset, htold d hset]

theorem quiet (hobj : s'.mSubscriptionObj = s.mSubscriptionObj)
    (hitems : s'.mDataItemToClients = s.mDataItemToClients) : Mirrored (hist ++ entry r []) s' :=
  h.step hobj (fun d _ ↦ by rw [hitems]; simp [told]) fun _ _ ↦ rfl

theorem setSubsObj (hinv : Inverse s) (subscriptionObj : ℕ) :
    Mirrored (hist ++ entry r (s.setSubsObj subscriptionObj).2) (s.setSubsObj subscriptionObj).1 := by
  intro d
  have htold : told d (s.setSubsObj subscriptionObj).2
      = if d ∈ s.mDataItemToClients.getKeys then some true else none := by
    dsimp only [OsObserver.setSubsObj]
    split
    · next hempty =>
      rw [LocUnorderedSetMap.empty, List.isEmpty_iff] at hempty
      rw [getKeys, hempty]
      simp [told]
    · rw [← singleton_append, told_append, told_singleton, told_singleton]
      simp only [toldOf, mem_toList, Option.none_or]
  rw [subscribed_append, htold, h d]
  dsimp only [OsObserver.setSubsObj]
  rw [← hinv.items.mem_getKeys]
  by_cases hkey : d ∈ s.mDataItemToClients.getKeys
  · simp [hkey]
  · simp [hkey]

theorem handleSubscribeReq (hinv : Inverse s) (l : List DataItemId)
    (client : ℕ) (toRequestData : Bool)
    (hknown : toRequestData = true → s.mSubscriptionObj ≠ none →
      ∀ d ∈ l, d ∈ s.mDataItemToClients.getKeys) :
    Mirrored (hist ++ entry r (s.handleSubscribeReq l client toRequestData).2)
      (s.handleSubscribeReq l client toRequestData).1 := by
  obtain ⟨-, hholds, hnew⟩ := add_spec hinv.items (toSet l) (cons_ne_nil client [])
  have hkeys : ∀ d, (∃ c, (s.handleSubscribeReq l client toRequestData).1.mDataItemToClients.Holds
      d c) ↔ (∃ c, s.mDataItemToClients.Holds d c) ∨ d ∈ l := by
    intro d
    refine (exists_congr (hholds d)).trans ?_
    simp [exists_or]
  refine h.step rfl (fun d hset ↦ ?_) fun d hset ↦ ?_
  · rw [hkeys]
    obtain ⟨subscriptionObj, hobj⟩ := Option.ne_none_iff_exists'.mp hset
    dsimp only [OsObserver.handleSubscribeReq]
    rw [told_append, told_sendCachedDataItems, Option.or_none, OsObserver.callFramework.eq_def]
    dsimp only
    rw [hobj]
    dsimp only
    cases htype : toRequestData with
    | true =>
      -- nothing is told, but there is nothing new either
      have hknown := hknown htype hset d
      rw [hinv.items.mem_getKeys] at hknown
      simp only [if_true, told_singleton, toldOf, reduceCtorEq, true_and, false_or]
      exact or_iff_left_of_imp hknown
    | false =>
      have hnew := hnew d
      rw [mem_toSet] at hnew
      simp only [Bool.false_eq_true, if_false]
      split
      · simp only [told_singleton, toldOf, mem_toList]
        split
        · next hd => simp [hnew.mp hd]
        · next hd =>
          have hnot := mt hnew.mpr hd
          simp only [reduceCtorEq, true_and, false_or]
          tauto
      · next hnil =>
        rw [not_not.mp hnil] at hnew
        simp only [not_mem_nil, false_iff] at hnew
        simp only [told, map_nil, latest_nil, reduceCtorEq, true_and, false_or]
        tauto
  · dsimp only [OsObserver.handleSubscribeReq]
    rw [told_append, told_sendCachedDataItems, Option.or_none, OsObserver.callFramework.eq_def]
    dsimp only
    rw [hset]
    rfl

/-- The items that lose their last client are reported, and the framework is told. -/
theorem trim (hinv : Inverse s) (hread : ∀ d, readErased d = d)
    (keys : UnorderedSet DataItemId) (client : ℕ)
    (hobj : s'.mSubscriptionObj = s.mSubscriptionObj)
    (hitems : s'.mDataItemToClients
      = (s.mDataItemToClients.trimOrRemove readErased keys [client]).1) :
    Mirrored (hist ++ entry r (s'.callUnsubscribe
      (s.mDataItemToClients.trimOrRemove readErased keys [client]).2.1)) s' := by
  obtain ⟨-, hholds, hgone, -⟩ := trimOrRemove_spec readErased hinv.items keys [client]
  have hgone : ∀ d, d ∈ (s.mDataItemToClients.trimOrRemove readErased keys [client]).2.1 ↔
      d ∈ keys ∧ s.mDataItemToClients.Emptied [client] d := by
    intro d
    rw [hgone]
    simp [hread]
  refine h.step hobj (fun d hset ↦ ?_) fun d hset ↦ ?_
  · rw [told_callUnsubscribe, hobj, hitems, exists_congr (hholds d)]
    split
    · next hd =>
      have hd := (hgone d).mp hd.2
      simp only [Option.some.injEq, Bool.false_eq_true, reduceCtorEq, false_and, or_self, iff_false]
      rintro ⟨c, hc, hnot⟩
      exact hnot ⟨hd.1, hd.2.2 c hc⟩
    · next hd =>
      have hd := fun hmem ↦ hd ⟨hset, (hgone d).mpr hmem⟩
      simp only [reduceCtorEq, true_and, false_or]
      constructor
      · rintro ⟨c, hc, -⟩
        exact ⟨c, hc⟩
      · rintro ⟨c, hc⟩
        by_contra hall
        push Not at hall
        exact hd ⟨(hall c hc).1, ⟨c, hc⟩, fun c' hc' ↦ (hall c' hc').2⟩
  · rw [told_callUnsubscribe, hobj]
    simp [hset]

theorem withClient {l : List DataItemId} {client : Option ℕ} {handle : ℕ → OsObserver × List Call}
    (hhandle : ∀ c, client = some c → Mirrored (hist ++ entry r (handle c).2) (handle c).1) :
    Mirrored (hist ++ entry r (s.withClient l client handle).2)
      (s.withClient l client handle).1 := by
  cases client with
  | none => exact h.quiet rfl rfl
  | some client =>
    rw [OsObserver.withClient.eq_def]
    dsimp only
    split
    · exact h.quiet rfl rfl
    · exact hhandle client rfl

theorem request (hinv : Inverse s) (hread : ∀ d, readErased d = d) (hg : RequestsKnown s r) :
    Mirrored (hist ++ entry r (s.request readErased r).2) (s.request readErased r).1 := by
  cases r with
  | setSubscriptionObj subscriptionObj =>
    cases subscriptionObj with
    | none => exact h.quiet rfl rfl
    | some subscriptionObj => exact h.setSubsObj hinv subscriptionObj
  | subscribe l client =>
    exact h.withClient fun c _ ↦ h.handleSubscribeReq hinv l c false (by simp)
  | requestData l client =>
    refine h.withClient fun c hc ↦ h.handleSubscribeReq hinv l c true fun _ hset ↦ ?_
    rw [hc] at hg
    exact hg hset
  | updateSubscription l client => exact hg.elim
  | unsubscribe l client => exact h.withClient fun c _ ↦ h.trim hinv hread _ c rfl rfl
  | unsubscribeAll client =>
    cases client with
    | none => exact h.quiet rfl rfl
    | some client =>
      rw [OsObserver.request, OsObserver.handleUnsubscribeAllReq]
      split
      · exact h.trim hinv hread _ client rfl rfl
      · exact h.quiet rfl rfl
  | updateCache d dataitem => exact h.quiet rfl rfl

end Mirrored

/-- **The framework agrees.** In every run of subscriptions, requests for data and their ends in
which data is requested only of items that have clients, once there is a subscription object, the
items that the framework is subscribed to are the keys of the map of their clients whenever there is
a subscription object. The key of an erased entry is read back as it was. -/
theorem subscribed_iff_of_run (hread : ∀ d, readErased d = d) {hist : List (Item Request Call)}
    {s : OsObserver} (h : Run (OsObserver.step readErased) RequestsKnown .initial hist s)
    (hset : s.mSubscriptionObj ≠ none) (d : DataItemId) :
    Subscribed hist d ↔ d ∈ s.mDataItemToClients.getKeys := by
  have hfresh : ∀ (s : OsObserver) r, RequestsKnown s r → UpdatesFresh s r := by
    intro s r hg
    cases r with
    | updateSubscription l client => exact hg.elim
    | _ => trivial
  obtain ⟨hinv, hmirrored⟩ := h.invariant (I := fun hist s ↦ Inverse s ∧ Mirrored hist s)
    ⟨.initial, fun d ↦ by simp [Subscribed, OsObserver.initial]⟩ (by
      rintro hist s r s' calls ⟨hinv, hmirrored⟩ hg hs
      obtain ⟨rfl, rfl⟩ := some_pair_inj hs
      exact ⟨hinv.request (hfresh s r hg), hmirrored.request hinv hread hg⟩)
  rw [hmirrored d, hinv.items.mem_getKeys]
  exact and_iff_right hset

/-- The subscription object comes after the first client; then one item loses its last client. -/
theorem subscribed_iff_of_run_late :
    ∃ hist s, Run (OsObserver.step id) RequestsKnown .initial hist s ∧
      s.mSubscriptionObj ≠ none ∧ Subscribed hist .tac ∧ ¬Subscribed hist .gpsState := by
  obtain ⟨hist, s, hrun, hs⟩ := Run.exists_of_runEvents (OsObserver.step id) RequestsKnown .initial
    [.subscribe [.gpsState] (some 1), .requestData [.tac] (some 2), .setSubscriptionObj (some 9),
      .requestData [.gpsState] (some 2), .unsubscribeAll (some 1), .unsubscribe [.gpsState] (some 2)]
    (fun _ s ↦ s.mSubscriptionObj ≠ none ∧
      DataItemId.tac ∈ s.mDataItemToClients.getKeys ∧
      DataItemId.gpsState ∉ s.mDataItemToClients.getKeys) (by decide +kernel)
  have hiff := subscribed_iff_of_run (fun _ ↦ rfl) hrun hs.1
  exact ⟨hist, s, hrun, hs.1, (hiff .tac).mpr hs.2.1, fun hd ↦ hs.2.2 ((hiff .gpsState).mp hd)⟩

/-- Data of an item that no client has is requested, and the framework is not told to subscribe to
it. -/
theorem not_subscribed_of_requestData :
    ∃ hist s, Run (OsObserver.step id) (fun _ _ ↦ True) .initial hist s ∧
      s.mSubscriptionObj ≠ none ∧
      ¬(Subscribed hist .tac ↔ .tac ∈ s.mDataItemToClients.getKeys) := by
  obtain ⟨hist, s, hrun, hobj, hlatest, hkey⟩ :=
    Run.exists_of_runEvents (OsObserver.step id) (fun _ _ ↦ True)
    .initial [.setSubscriptionObj (some 9), .requestData [.tac] (some 1)]
    (fun hist s ↦ s.mSubscriptionObj ≠ none ∧ latest (toldOf .tac) hist = none ∧
      DataItemId.tac ∈ s.mDataItemToClients.getKeys) (by decide +kernel)
  refine ⟨hist, s, hrun, hobj, fun hiff ↦ ?_⟩
  have htrue : latest (toldOf .tac) hist = some true := hiff.mpr hkey
  rw [hlatest] at htrue
  cases htrue

end MataDevice.Observer
