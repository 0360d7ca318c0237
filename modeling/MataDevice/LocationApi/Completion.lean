import MataDevice.LocationApi.Ends

/-!
# The completion of destroy

Destroying an instance should end in two things once all adapters have acknowledged: the completion
callback is called, and the instance is deleted. No call of `destroy` achieves both. An entry is
made only for the sake of a callback, so that without one there is nobody to delete the instance. A
callback, on the other hand, is called only if it is missing, which is to say never.

What remains is that an instance destroyed with a callback is deleted once, and that no adapter has
yet to acknowledge the removal of an instance that is deleted.
-/

namespace MataDevice.LocationApi

open List
open OrderedMap (find?_insert find?_erase)

/-! ## What is counted -/

namespace Event

/-- The callback is given to `destroy`. -/
def gives (destroyCompleteCb : ℕ) : Event → Bool
  | .destroy _ (some cb) => cb == destroyCompleteCb
  | _ => false

def destroys (client : ℕ) : Event → Bool
  | .destroy client' _ => client' == client
  | _ => false

def destroysWithCb (client : ℕ) : Event → Bool
  | .destroy client' (some _) => client' == client
  | _ => false

def destroysWithoutCb (client : ℕ) : Event → Bool
  | .destroy client' none => client' == client
  | _ => false

def isDestroy : Event → Bool
  | .destroy _ _ => true
  | _ => false

theorem countP_destroys (client : ℕ) (events : List Event) :
    events.countP (destroys client) =
      events.countP (destroysWithCb client) + events.countP (destroysWithoutCb client) := by
  induction events with
  | nil => rfl
  | cons e events ih =>
    rw [countP_cons, countP_cons, countP_cons, ih]
    rcases e with _ | _ | ⟨client', cb | cb⟩ | _ | _ <;>
      simp [destroys, destroysWithCb, destroysWithoutCb] <;> omega

end Event

/-- Whether the event creates the instance or destroys it -/
def lifeOf (client : ℕ) : Item Event Output → Option Bool
  | .event (.create client' cbs _) => if client' = client ∧ cbs.mandatory then some true else none
  | .event (.destroy client' _) => if client' = client then some false else none
  | _ => none

/-- The instance was created, and not yet destroyed. -/
def Exists (hist : List (Item Event Output)) (client : ℕ) : Prop :=
  latest (lifeOf client) hist = some true

/-- Every completion callback was called as often as it was given. -/
def CallsBack (hist : List (Item Event Output)) : Prop :=
  ∀ cb, (outsOf hist).count (.invoke cb) = (eventsOf hist).countP (Event.gives cb)

/-- Every instance was deleted as often as it was destroyed. -/
def Deletes (hist : List (Item Event Output)) : Prop :=
  ∀ client, (outsOf hist).count (.delete client) = (eventsOf hist).countP (Event.destroys client)

/-! ## One step -/

section Steps

variable {s : System} {e : Event} {r : System × List Output} {outs : List Output}

theorem count_delete_of_quiet (h : ∀ o ∈ outs, o.Quiet ∨ o = .createOSFramework) (client : ℕ) :
    outs.count (.delete client) = 0 := by
  refine count_eq_zero.mpr fun hmem ↦ ?_
  rcases h _ hmem with hq | heq
  · exact hq
  · cases heq

/-- Who gave a callback and need not wait is deleted at once. -/
theorem count_delete_destroy {gData : LocationAPIData} {destroyCompleteCb : Option ℕ}
    {client : ℕ} (hlive : (gData.clientData.find? client).isSome = true) (client' : ℕ) :
    (gData.destroy destroyCompleteCb client).2.count (.delete client') =
      if client = client' ∧ gData.needToWait = false ∧ destroyCompleteCb.isSome = true then 1
      else 0 := by
  have hremoves : (([.gnss, .batching, .geofence] : List Adapter).filterMap fun ad ↦
      if gData.interfaces ad then some (Output.removeClient ad client) else none).count
        (.delete client') = 0 := by
    refine count_eq_zero.mpr fun hmem ↦ ?_
    obtain ⟨ad, -, heq⟩ := mem_filterMap.mp hmem
    split at heq <;> cases heq
  have hframework : (if gData.gOSFrameworkRefCount = 1 then [Output.destroyOSFramework]
      else []).count (.delete client') = 0 := by
    split <;> simp
  rw [destroy_of_live hlive, count_append, count_append, hremoves, hframework]
  cases gData.needToWait <;> cases destroyCompleteCb <;>
    simp [LocationAPIData.invokeAndDelete, count_singleton]

/-- A deletion is owed for each entry. -/
theorem count_delete_step (h : s.Inv) (hstep : s.step e = some r) (client : ℕ) :
    r.2.count (.delete client) + (r.1.gData.destroyClientData.find? client).isSome.toNat =
      (s.gData.destroyClientData.find? client).isSome.toNat +
        (e.destroysWithCb client).toNat := by
  cases System.steps_of_step hstep with
  | create =>
    rw [System.after, count_delete_of_quiet (fun o ho ↦ createInstance_quiet ho)]
    dsimp only
    rw [createInstance_destroyClientData, Nat.zero_add]
    rfl
  | refuse => exact Nat.zero_add _
  | @update client' cbs available =>
    have hloads : Loads _ (s.gData.updateCallbacks available cbs client') := loads_updateCallbacks
    rw [System.after, count_delete_of_quiet (fun o ho ↦ Or.inl (hloads.quiet o ho))]
    dsimp only
    rw [hloads.destroyClientData, Nat.zero_add]
    rfl
  | @destroy client' destroyCompleteCb hlive =>
    rw [System.after, count_delete_destroy hlive]
    dsimp only
    rw [destroy_find?_destroyClientData hlive]
    -- there is no entry for an instance that is alive
    have hnone : s.gData.destroyClientData.find? client' = none := by
      by_contra hne
      obtain ⟨data, hdata⟩ := Option.ne_none_iff_exists'.mp hne
      obtain ⟨-, ad, hack⟩ := h.entry client' data hdata
      rw [(h.ack client' ad hack).2] at hlive
      cases hlive
    by_cases heq : client' = client
    · subst heq
      cases hwait : s.gData.needToWait <;> cases destroyCompleteCb <;>
        simp [hnone, Event.destroysWithCb]
    · cases destroyCompleteCb <;> simp [heq, Ne.symm heq, Event.destroysWithCb]
  | @ack client' ad hack =>
    rw [System.after]
    dsimp only
    cases hfind : s.gData.destroyClientData.find? client' with
    | none =>
      rw [onRemoveClientCompleteCb_of_none ad hfind, count_nil, Nat.zero_add]
      rfl
    | some data =>
      rw [onRemoveClientCompleteCb_of_some hfind]
      by_cases heq : client' = client
      · subst heq
        split <;> simp [hfind, find?_erase, find?_insert,
          Event.destroysWithCb]
      · split <;> simp [heq, Ne.symm heq, find?_erase, find?_insert,
          Event.destroysWithCb]
  | @control available =>
    have hloads : Loads _ (s.gData.loadInterface .gnss available) := loads_loadInterface .gnss
    rw [System.after, count_delete_of_quiet (fun o ho ↦ Or.inl (hloads.quiet o ho))]
    dsimp only
    rw [hloads.destroyClientData, Nat.zero_add]
    rfl

theorem isSome_find?_step (hstep : s.step e = some r) (client : ℕ) :
    (r.1.gData.clientData.find? client).isSome =
      ((lifeOf client (.event e)).getD (s.gData.clientData.find? client).isSome) := by
  cases System.steps_of_step hstep with
  | @create client' cbs available _ hmandatory =>
    rw [System.after]
    dsimp only
    rw [createInstance_clientData hmandatory, find?_insert]
    by_cases heq : client = client'
    · simp [lifeOf, heq, hmandatory]
    · simp [lifeOf, heq, Ne.symm heq]
  | refuse _ hmandatory => simp [System.after, lifeOf, hmandatory]
  | @update client' cbs available hlive =>
    rw [System.after]
    dsimp only
    rw [updateCallbacks_clientData]
    split
    · rw [find?_insert]
      split
      · next heq =>
        rw [heq, hlive]
        rfl
      · rfl
    · rfl
  | @destroy client' destroyCompleteCb hlive =>
    rw [System.after, destroy_of_live hlive]
    dsimp only
    rw [find?_erase]
    by_cases heq : client = client'
    · simp [lifeOf, heq]
    · simp [lifeOf, heq, Ne.symm heq]
  | @ack client' ad hack =>
    rw [System.after]
    dsimp only
    cases hfind : s.gData.destroyClientData.find? client' with
    | none =>
      rw [onRemoveClientCompleteCb_of_none ad hfind]
      rfl
    | some data =>
      rw [onRemoveClientCompleteCb_of_some hfind]
      split <;> rfl
  | @control available =>
    rw [System.after]
    dsimp only
    rw [(loads_loadInterface .gnss).clientData]
    rfl

theorem invoke_not_mem_step (hstep : s.step e = some r) (cb : ℕ) : .invoke cb ∉ r.2 := by
  intro hmem
  cases System.steps_of_step hstep with
  | create =>
    rcases createInstance_quiet hmem with hq | heq
    · exact hq
    · cases heq
  | refuse => cases hmem
  | update => exact loads_updateCallbacks.quiet _ hmem
  | @destroy client destroyCompleteCb hlive =>
    rcases (mem_destroy hlive).mp hmem with ⟨ad, heq, -⟩ | ⟨heq, -⟩ | ⟨-, hmem⟩
    · cases heq
    · cases heq
    · cases destroyCompleteCb <;> cases mem_singleton.mp hmem
  | @ack client ad hack =>
    change _ ∈ (s.gData.onRemoveClientCompleteCb ad client).2 at hmem
    cases hfind : s.gData.destroyClientData.find? client with
    | none =>
      rw [onRemoveClientCompleteCb_of_none ad hfind] at hmem
      cases hmem
    | some data =>
      rw [onRemoveClientCompleteCb_of_some hfind] at hmem
      split at hmem
      · cases mem_singleton.mp hmem
      · cases hmem
  | control => exact (loads_loadInterface .gnss).quiet _ hmem

/-- A deleted instance is not in use, and so nothing is to be acknowledged of it. -/
theorem not_acks_of_delete (h : s.Inv) (hstep : s.step e = some r) {client : ℕ}
    (hmem : .delete client ∈ r.2) (ad : Adapter) : (client, ad) ∉ r.1.acks := by
  intro hack
  have hallocated := ((h.step hstep).ack client ad hack).1
  have hdeleted : client ∈ deletedOf r.2 := mem_deletedOf.mpr hmem
  cases System.steps_of_step hstep <;> exact (Finset.mem_sdiff.mp hallocated).2 hdeleted

end Steps

/-! ## Runs -/

/-- The instances are those that exist, each one that was destroyed with a callback was deleted or has
an entry, and no callback was called. -/
structure Counts (hist : List (Item Event Output)) (s : System) : Prop where
  inv : s.Inv
  alive : ∀ client, (s.gData.clientData.find? client).isSome = true ↔ Exists hist client
  deletes : ∀ client, (outsOf hist).count (.delete client) +
    (s.gData.destroyClientData.find? client).isSome.toNat =
      (eventsOf hist).countP (Event.destroysWithCb client)
  invokes : ∀ cb, .invoke cb ∉ outsOf hist

variable {interfaces loadFailed : Adapter → Bool} {hist : List (Item Event Output)} {s : System}

theorem counts_of_run
    (h : Run System.step (fun _ _ ↦ True) (System.init interfaces loadFailed) hist s) :
    Counts hist s := by
  refine h.invariant (I := Counts)
    ⟨System.inv_init interfaces loadFailed, fun _ ↦ by simp [System.init, Exists], fun _ ↦ rfl,
      fun _ ↦ not_mem_nil⟩
    fun {hist s e s' outs} ih _ hstep ↦
      ⟨ih.inv.step hstep, fun client ↦ ?_, fun client ↦ ?_, fun cb ↦ ?_⟩
  · have hsome := isSome_find?_step hstep client
    rw [hsome, Exists, latest_append_entry fun _ ↦ rfl]
    cases lifeOf client (.event e) with
    | none => exact ih.alive client
    | some b => exact (Option.some_inj (a := b)).symm
  · have hcount := count_delete_step ih.inv hstep client
    have hold := ih.deletes client
    rw [outsOf_append_entry, eventsOf_append_entry, count_append, countP_append,
      countP_singleton]
    cases hwith : e.destroysWithCb client with
    | false =>
      rw [hwith] at hcount
      simp only [Bool.toNat_false, Bool.false_eq_true, if_false] at hcount ⊢
      omega
    | true =>
      rw [hwith] at hcount
      simp only [Bool.toNat_true, if_true] at hcount ⊢
      omega
  · rw [outsOf_append_entry, mem_append, not_or]
    exact ⟨ih.invokes cb, invoke_not_mem_step hstep cb⟩

/-- Without anything to acknowledge there are no entries. -/
theorem Counts.deletes_of_settled (h : Counts hist s) (hsettled : s.acks = ∅) (client : ℕ) :
    (outsOf hist).count (.delete client) =
      (eventsOf hist).countP (Event.destroysWithCb client) := by
  have hnone : s.gData.destroyClientData.find? client = none := by
    by_contra hne
    obtain ⟨data, hdata⟩ := Option.ne_none_iff_exists'.mp hne
    obtain ⟨-, ad, hack⟩ := h.inv.entry client data hdata
    rw [hsettled] at hack
    exact Finset.notMem_empty _ hack
  rw [← h.deletes client, hnone]
  rfl

/-- The callbacks are called as they should be if none was given. -/
theorem Counts.callsBack_iff (h : Counts hist s) :
    CallsBack hist ↔ ∀ e ∈ eventsOf hist, ∀ cb, e.gives cb = false := by
  constructor
  · intro hcalls e he cb
    have hzero := (hcalls cb).symm.trans (count_eq_zero.mpr (h.invokes cb))
    exact Bool.eq_false_iff.mpr (countP_eq_zero.mp hzero e he)
  · intro hnone cb
    rw [count_eq_zero.mpr (h.invokes cb), eq_comm, countP_eq_zero]
    exact fun e he ↦ Bool.eq_false_iff.mp (hnone e he cb)

/-- The instances are deleted as they should be if all were destroyed with a callback. -/
theorem Counts.deletes_iff (h : Counts hist s) (hsettled : s.acks = ∅) :
    Deletes hist ↔ ∀ e ∈ eventsOf hist, ∀ client, e.destroysWithoutCb client = false := by
  constructor
  · intro hdeletes e he client
    have hzero := hdeletes client
    rw [h.deletes_of_settled hsettled, Event.countP_destroys, left_eq_add] at hzero
    exact Bool.eq_false_iff.mpr (countP_eq_zero.mp hzero e he)
  · intro hnone client
    rw [h.deletes_of_settled hsettled, Event.countP_destroys, left_eq_add, countP_eq_zero]
    exact fun e he ↦ Bool.eq_false_iff.mp (hnone e he client)

/-- In every run the OS framework exists exactly while there is an instance, and no instance is
deleted before its removal is acknowledged. Once everything is acknowledged, the instances that were
destroyed with a callback are deleted. But destroying ends as it should only for those who never
do it. -/
theorem completed_iff
    (h : Run System.step (fun _ _ ↦ True) (System.init interfaces loadFailed) hist s) :
    (s.peak < 2 ^ 32 → (s.osFramework = true ↔ ∃ client, Exists hist client)) ∧
      (∀ e r client ad, s.step e = some r → .delete client ∈ r.2 → (client, ad) ∉ r.1.acks) ∧
      (s.acks = ∅ →
        (∀ client, (outsOf hist).count (.delete client) =
          (eventsOf hist).countP (Event.destroysWithCb client)) ∧
        (CallsBack hist ∧ Deletes hist ↔ ∀ e ∈ eventsOf hist, e.isDestroy = false)) := by
  have hcounts := counts_of_run h
  refine ⟨fun hpeak ↦ ?_, fun e r client ad hstep hmem ↦
    not_acks_of_delete hcounts.inv hstep hmem ad, fun hsettled ↦
      ⟨hcounts.deletes_of_settled hsettled, ?_⟩⟩
  · rw [hcounts.inv.framework hpeak, ne_eq, OrderedMap.size_eq_zero_iff, not_forall]
    refine exists_congr fun client ↦ ?_
    rw [← hcounts.alive client, Option.isSome_iff_ne_none]
  · rw [hcounts.callsBack_iff, hcounts.deletes_iff hsettled]
    constructor
    · rintro ⟨hgives, hwithout⟩ e he
      cases e with
      | destroy client destroyCompleteCb =>
        cases destroyCompleteCb with
        | none => exact absurd (hwithout _ he client) (by simp [Event.destroysWithoutCb])
        | some cb => exact absurd (hgives _ he cb) (by simp [Event.gives])
      | _ => rfl
    · intro hnone
      refine ⟨fun e he cb ↦ ?_, fun e he client ↦ ?_⟩
      · have hdestroy := hnone e he
        cases e <;> first | rfl | cases hdestroy
      · have hdestroy := hnone e he
        cases e <;> first | rfl | cases hdestroy

/-- The callbacks of a client that tracks -/
def trackingClient : LocationCallbacks where
  capabilitiesCb := true
  responseCb := true
  collectiveResponseCb := true
  trackingCb := true
  batchingCb := false
  geofenceBreachCb := false
  geofenceStatusCb := false
  gnssLocationInfoCb := false
  gnssNiCb := false
  gnssSvCb := false
  gnssNmeaCb := false
  gnssDataCb := false
  gnssMeasurementsCb := false
  locationSystemInfoCb := false
  engineLocationsInfoCb := false

/-- The client destroys its instance with a callback, and the adapter acknowledges. -/
theorem exists_run_destroy_ack :
    ∃ hist s, Run System.step (fun _ _ ↦ True) (System.init (fun _ ↦ false) fun _ ↦ false) hist s ∧
      (s.acks = ∅ ∧ s.peak < 2 ^ 32 ∧ outsOf hist =
        [.createOSFramework, .initializeInterface .gnss, .addClient .gnss 0, .requestCapabilities .gnss 0,
          .removeClient .gnss 0, .destroyOSFramework, .delete 0] ∧
        (eventsOf hist).countP (Event.gives 7) = 1) := by
  exact Run.exists_of_decide
    [.create 0 trackingClient fun _ ↦ true, .destroy 0 (some 7), .ack 0 .gnss] (by decide +kernel)

theorem completed_iff_destroy_ack :
    ∃ hist s, Run System.step (fun _ _ ↦ True) (System.init (fun _ ↦ false) fun _ ↦ false) hist s ∧
      (s.osFramework = true ↔ ∃ client, Exists hist client) ∧
      (∀ client, (outsOf hist).count (.delete client) =
        (eventsOf hist).countP (Event.destroysWithCb client)) ∧
      (CallsBack hist ∧ Deletes hist ↔ ∀ e ∈ eventsOf hist, e.isDestroy = false) := by
  obtain ⟨hist, s, hrun, hsettled, hpeak, -⟩ := exists_run_destroy_ack
  exact ⟨hist, s, hrun, (completed_iff hrun).1 hpeak, (completed_iff hrun).2.2 hsettled⟩

theorem not_completed :
    ¬∀ (interfaces loadFailed : Adapter → Bool) (hist : List (Item Event Output)) (s : System),
      Run System.step (fun _ _ ↦ True) (System.init interfaces loadFailed) hist s → s.acks = ∅ →
        CallsBack hist ∧ Deletes hist := by
  intro hlaw
  obtain ⟨hist, s, hrun, hsettled, -, houts, hgives⟩ := exists_run_destroy_ack
  have hcalls := (hlaw _ _ hist s hrun hsettled).1 7
  rw [houts, hgives] at hcalls
  revert hcalls
  decide

end MataDevice.LocationApi
