import MataDevice.LocationApi.Instances

/-!
# The ends of instances

The instances of the location API together with what the code relies on: the addresses in use, the
removals that an adapter has yet to acknowledge, and whether the OS framework exists. The adapters
acknowledge in any order and at any time.

The count of the instances is kept as it should be. The entry of a destroyed instance holds the mask
of the removals that are outstanding, and it is there as long as one is. Over a run this is the
invariant, with one lemma for each event. What it means for the completion callbacks and for the
deletion of instances is in `LocationApi.Completion`.
-/

namespace MataDevice.LocationApi

open List
open Option (some_inj isSome_iff_ne_none)
open OrderedMap (find?_insert find?_erase)

/-! ## The instances and their environment -/

structure System where
  gData : LocationAPIData
  allocated : Finset ℕ
  /-- The removals that are to be acknowledged -/
  acks : Finset (ℕ × Adapter)
  osFramework : Bool
  /-- The most instances that there have been at a time -/
  peak : ℕ

inductive Event
  | create (client : ℕ) (cbs : LocationCallbacks) (available : Adapter → Bool)
  | update (client : ℕ) (cbs : LocationCallbacks) (available : Adapter → Bool)
  | destroy (client : ℕ) (destroyCompleteCb : Option ℕ)
  | ack (client : ℕ) (ad : Adapter)
  /-- `LocationControlAPI::createInstance` loads an interface, too. -/
  | control (available : Adapter → Bool)

def removalsOf (outs : List Output) : Finset (ℕ × Adapter) :=
  (outs.filterMap fun
    | .removeClient ad client => some (client, ad)
    | _ => none).toFinset

def deletedOf (outs : List Output) : Finset ℕ :=
  (outs.filterMap fun
    | .delete client => some client
    | _ => none).toFinset

def frameworkAfter (osFramework : Bool) (outs : List Output) : Bool :=
  (osFramework || outs.contains .createOSFramework) && !outs.contains .destroyOSFramework

namespace System

/-- Any interfaces may be loaded already. -/
def init (interfaces loadFailed : Adapter → Bool) : System where
  gData := ⟨.empty, .empty, interfaces, loadFailed, 0⟩
  allocated := ∅
  acks := ∅
  osFramework := false
  peak := 0

/-- The environment after what a function did to it -/
def after (s : System) (r : LocationAPIData × List Output) : System × List Output :=
  ({ gData := r.1
     allocated := s.allocated \ deletedOf r.2
     acks := s.acks ∪ removalsOf r.2
     osFramework := frameworkAfter s.osFramework r.2
     peak := max s.peak r.1.clientData.size }, r.2)

/-- A new instance gets an address that is not in use. An instance is not used after it was
destroyed. -/
def step (s : System) : Event → Option (System × List Output)
  | .create client cbs available =>
    if client ∈ s.allocated then none
    else
      let allocated := if cbs.mandatory then insert client s.allocated else s.allocated
      some ({ s with allocated }.after (s.gData.createInstance available cbs client))
  | .update client cbs available =>
    if (s.gData.clientData.find? client).isSome then
      some (s.after (s.gData.updateCallbacks available cbs client))
    else none
  | .destroy client destroyCompleteCb =>
    if (s.gData.clientData.find? client).isSome then
      some (s.after (s.gData.destroy destroyCompleteCb client))
    else none
  | .ack client ad =>
    if (client, ad) ∈ s.acks then
      some ({ s with acks := s.acks.erase (client, ad) }.after
        (s.gData.onRemoveClientCompleteCb ad client))
    else none
  | .control available => some (s.after (s.gData.loadInterface .gnss available))

end System

/-! ## What the functions do -/

/-- The output makes nothing that matters for the ends of instances. -/
def Output.Quiet : Output → Prop
  | .initializeInterface _ | .addClient _ _ | .requestCapabilities _ _ => True
  | _ => False

section Readings

variable {outs : List Output} {client : ℕ} {ad : Adapter}

theorem mem_removalsOf : (client, ad) ∈ removalsOf outs ↔ .removeClient ad client ∈ outs := by
  rw [removalsOf, mem_toFinset, mem_filterMap]
  constructor
  · rintro ⟨o, ho, heq⟩
    cases o with
    | removeClient ad' client' =>
      obtain ⟨rfl, rfl⟩ := some_pair_inj heq
      exact ho
    | _ => cases heq
  · exact fun h ↦ ⟨_, h, rfl⟩

theorem mem_deletedOf : client ∈ deletedOf outs ↔ .delete client ∈ outs := by
  rw [deletedOf, mem_toFinset, mem_filterMap]
  constructor
  · rintro ⟨o, ho, heq⟩
    cases o with
    | delete client' =>
      obtain rfl := some_inj.mp heq
      exact ho
    | _ => cases heq
  · exact fun h ↦ ⟨_, h, rfl⟩

end Readings

section Functions

open LocationAPIData

variable {gData : LocationAPIData} {available : Adapter → Bool} {cbs : LocationCallbacks}
  {client : ℕ}

/-- Nothing happened but the loading of interfaces and what they were told of clients. -/
structure Loads (gData : LocationAPIData) (r : LocationAPIData × List Output) : Prop where
  clientData : r.1.clientData = gData.clientData
  destroyClientData : r.1.destroyClientData = gData.destroyClientData
  refCount : r.1.gOSFrameworkRefCount = gData.gOSFrameworkRefCount
  quiet : ∀ o ∈ r.2, o.Quiet

theorem Loads.refl (gData : LocationAPIData) : Loads gData (gData, []) :=
  ⟨rfl, rfl, rfl, fun _ h ↦ nomatch h⟩

theorem Loads.trans {gData' gData'' : LocationAPIData} {outs outs' : List Output}
    (h : Loads gData (gData', outs)) (h' : Loads gData' (gData'', outs')) :
    Loads gData (gData'', outs ++ outs') where
  clientData := h'.clientData.trans h.clientData
  destroyClientData := h'.destroyClientData.trans h.destroyClientData
  refCount := h'.refCount.trans h.refCount
  quiet o ho := (mem_append.mp ho).elim (h.quiet o) (h'.quiet o)

theorem loads_loadInterface (ad : Adapter) :
    Loads gData (loadInterface ad available gData) := by
  rw [loadInterface]
  split
  · split
    · exact ⟨rfl, rfl, rfl, fun o ho ↦ by obtain rfl := mem_singleton.mp ho; trivial⟩
    · exact ⟨rfl, rfl, rfl, fun _ h ↦ nomatch h⟩
  · exact .refl gData

theorem loads_addToAdapter (ad : Adapter) (requested : Bool) :
    Loads gData ((addToAdapter ad available cbs client requested gData).1,
      (addToAdapter ad available cbs client requested gData).2.1) := by
  rw [addToAdapter]
  split
  · have hload : Loads gData (loadInterface ad available gData) := loads_loadInterface ad
    dsimp only
    split
    · refine hload.trans ⟨rfl, rfl, rfl, fun o ho ↦ ?_⟩
      rcases mem_cons.mp ho with rfl | ho
      · trivial
      · cases requested with
        | true => cases ho
        | false =>
          obtain rfl := mem_singleton.mp ho
          trivial
    · exact hload
  · exact .refl gData

theorem loads_addToAdapters (requested : Bool) :
    Loads gData (addToAdapters available cbs client requested gData) :=
  ((loads_addToAdapter .gnss requested).trans (loads_addToAdapter .batching _)).trans
    (loads_addToAdapter .geofence _)

theorem createInstance_of_not_mandatory (h : cbs.mandatory = false) :
    createInstance available cbs client gData = (gData, []) := by
  rw [createInstance, if_pos (by rw [h]; rfl)]

theorem createInstance_clientData (h : cbs.mandatory = true) :
    (createInstance available cbs client gData).1.clientData =
      gData.clientData.insert client cbs := by
  rw [createInstance, if_neg (by rw [h]; exact Bool.false_ne_true)]
  exact congrArg (OrderedMap.insert · client cbs) (loads_addToAdapters false).clientData

theorem createInstance_destroyClientData :
    (createInstance available cbs client gData).1.destroyClientData = gData.destroyClientData := by
  rw [createInstance]
  split
  · rfl
  · exact (loads_addToAdapters false).destroyClientData

theorem createInstance_refCount (h : cbs.mandatory = true) :
    (createInstance available cbs client gData).1.gOSFrameworkRefCount =
      gData.gOSFrameworkRefCount + 1 := by
  rw [createInstance, if_neg (by rw [h]; exact Bool.false_ne_true)]
  exact (loads_addToAdapters false).refCount

theorem createInstance_quiet {o : Output} (ho : o ∈ (createInstance available cbs client gData).2) :
    o.Quiet ∨ o = .createOSFramework := by
  rw [createInstance] at ho
  split at ho
  · cases ho
  · rcases mem_append.mp ho with ho | ho
    · split at ho
      · exact Or.inr (mem_singleton.mp ho)
      · cases ho
    · exact Or.inl ((loads_addToAdapters false).quiet o ho)

theorem createOSFramework_mem_createInstance (h : cbs.mandatory = true) :
    .createOSFramework ∈ (createInstance available cbs client gData).2 ↔
      gData.gOSFrameworkRefCount + 1 = 1 := by
  rw [createInstance, if_neg (by rw [h]; exact Bool.false_ne_true), mem_append]
  constructor
  · rintro (ho | ho)
    · split at ho
      · next h1 => exact h1
      · cases ho
    · exact ((loads_addToAdapters false).quiet _ ho).elim
  · exact fun h1 ↦ Or.inl (by rw [if_pos h1]; exact mem_singleton.mpr rfl)

/-- An update changes no keys. -/
theorem loads_updateCallbacks :
    Loads { gData with clientData := (updateCallbacks available cbs client gData).1.clientData }
      (updateCallbacks available cbs client gData) := by
  rw [updateCallbacks]
  split
  · exact .refl gData
  · have hloads : Loads gData (addToAdapters available cbs client true gData) :=
      loads_addToAdapters true
    exact ⟨rfl, hloads.destroyClientData, hloads.refCount, hloads.quiet⟩

theorem updateCallbacks_clientData :
    (updateCallbacks available cbs client gData).1.clientData =
      if cbs.mandatory then gData.clientData.insert client cbs else gData.clientData := by
  rw [updateCallbacks]
  cases h : cbs.mandatory with
  | false => rfl
  | true =>
    exact congrArg (OrderedMap.insert · client cbs) (loads_addToAdapters true).clientData

section Destroy

variable {destroyCompleteCb : Option ℕ} (hlive : (gData.clientData.find? client).isSome = true)

include hlive

theorem destroy_of_live :
    destroy destroyCompleteCb client gData =
      ({ gData with
          clientData := gData.clientData.erase client
          destroyClientData := match destroyCompleteCb with
            | none => gData.destroyClientData
            | some cb =>
              if gData.needToWait then
                gData.destroyClientData.insert client ⟨maskOf gData.interfaces, cb⟩
              else gData.destroyClientData
          gOSFrameworkRefCount := gData.gOSFrameworkRefCount - 1 },
        ([.gnss, .batching, .geofence] : List Adapter).filterMap (fun ad ↦
            if gData.interfaces ad then some (.removeClient ad client) else none) ++
          (if gData.gOSFrameworkRefCount = 1 then [.destroyOSFramework] else []) ++
          if gData.needToWait then [] else invokeAndDelete destroyCompleteCb client) := by
  unfold destroy
  rw [hlive]
  cases gData.needToWait <;> rfl

/-- With a callback there is an entry if an adapter has to acknowledge. -/
theorem destroy_find?_destroyClientData (client' : ℕ) :
    (destroy destroyCompleteCb client gData).1.destroyClientData.find? client' =
      match destroyCompleteCb with
      | none => gData.destroyClientData.find? client'
      | some cb =>
        if client' = client ∧ gData.needToWait = true then some ⟨maskOf gData.interfaces, cb⟩
        else gData.destroyClientData.find? client' := by
  rw [destroy_of_live hlive]
  cases destroyCompleteCb with
  | none => rfl
  | some cb =>
    cases gData.needToWait with
    | false => simp
    | true => simp [find?_insert]

/-- What the call does to the outside -/
theorem mem_destroy {o : Output} :
    o ∈ (destroy destroyCompleteCb client gData).2 ↔
      (∃ ad, o = .removeClient ad client ∧ gData.interfaces ad = true) ∨
      (o = .destroyOSFramework ∧ gData.gOSFrameworkRefCount = 1) ∨
      gData.needToWait = false ∧ o ∈ invokeAndDelete destroyCompleteCb client := by
  have hremoves : o ∈ ([.gnss, .batching, .geofence] : List Adapter).filterMap (fun ad ↦
      if gData.interfaces ad then some (.removeClient ad client) else none) ↔
        ∃ ad, o = .removeClient ad client ∧ gData.interfaces ad = true := by
    rw [mem_filterMap]
    refine exists_congr fun ad ↦ ⟨fun ⟨_, heq⟩ ↦ ?_, fun ⟨heq, hloaded⟩ ↦ ⟨?_, ?_⟩⟩
    · split at heq
      · next hloaded => exact ⟨(some_inj.mp heq).symm, hloaded⟩
      · cases heq
    · cases ad <;> simp
    · rw [if_pos hloaded, heq]
  rw [destroy_of_live hlive, mem_append, mem_append, hremoves, or_assoc]
  refine or_congr_right (or_congr ?_ ?_)
  · split
    · next h => simp [h]
    · next h => simp [h]
  · cases gData.needToWait <;> simp

variable {client' : ℕ}

theorem removeClient_mem_destroy {ad : Adapter} :
    .removeClient ad client' ∈ (destroy destroyCompleteCb client gData).2 ↔
      client' = client ∧ gData.interfaces ad = true := by
  rw [mem_destroy hlive]
  cases destroyCompleteCb <;> simp [invokeAndDelete, and_comm]

theorem delete_mem_destroy :
    .delete client' ∈ (destroy destroyCompleteCb client gData).2 ↔
      client' = client ∧ gData.needToWait = false ∧ destroyCompleteCb.isSome = true := by
  rw [mem_destroy hlive]
  cases destroyCompleteCb <;> simp [invokeAndDelete, and_comm]

theorem destroyOSFramework_mem_destroy :
    .destroyOSFramework ∈ (destroy destroyCompleteCb client gData).2 ↔
      gData.gOSFrameworkRefCount = 1 := by
  rw [mem_destroy hlive]
  cases destroyCompleteCb <;> simp [invokeAndDelete]

theorem createOSFramework_not_mem_destroy :
    .createOSFramework ∉ (destroy destroyCompleteCb client gData).2 := by
  rw [mem_destroy hlive]
  cases destroyCompleteCb <;> simp [invokeAndDelete]

end Destroy

theorem needToWait_eq_false : gData.needToWait = false ↔ ∀ ad, gData.interfaces ad = false := by
  rw [needToWait, Bool.or_eq_false_iff, Bool.or_eq_false_iff]
  refine ⟨fun ⟨⟨hgnss, hbatching⟩, hgeofence⟩ ad ↦ ?_, fun h ↦ ⟨⟨h _, h _⟩, h _⟩⟩
  cases ad
  · exact hgnss
  · exact hbatching
  · exact hgeofence

theorem maskOf_eq_zero {p : Adapter → Bool} : maskOf p = 0 ↔ ∀ ad, p ad = false := by
  have hmask : maskOf p = 0 ↔ p .gnss = false ∧ p .batching = false ∧ p .geofence = false := by
    rw [maskOf]
    cases p .gnss <;> cases p .batching <;> cases p .geofence <;> decide
  rw [hmask]
  refine ⟨fun ⟨hgnss, hbatching, hgeofence⟩ ad ↦ ?_, fun h ↦ ⟨h _, h _, h _⟩⟩
  cases ad
  · exact hgnss
  · exact hbatching
  · exact hgeofence

theorem maskOf_and_not (p : Adapter → Bool) (ad : Adapter) :
    maskOf p &&& ~~~ad.bit = maskOf fun ad' ↦ p ad' && decide (ad' ≠ ad) := by
  rw [maskOf, maskOf]
  cases p .gnss <;> cases p .batching <;> cases p .geofence <;> cases ad <;> decide

theorem onRemoveClientCompleteCb_of_none (ad : Adapter)
    (h : gData.destroyClientData.find? client = none) :
    onRemoveClientCompleteCb ad client gData = (gData, []) := by
  rw [onRemoveClientCompleteCb, h]

theorem onRemoveClientCompleteCb_of_some {ad : Adapter} {data : LocationAPIDestroyCbData}
    (h : gData.destroyClientData.find? client = some data) :
    onRemoveClientCompleteCb ad client gData =
      if data.waitAdapterMask &&& ~~~ad.bit = 0 then
        ({ gData with destroyClientData := gData.destroyClientData.erase client },
          [.delete client])
      else
        ({ gData with
          destroyClientData := gData.destroyClientData.insert client
            { data with waitAdapterMask := data.waitAdapterMask &&& ~~~ad.bit } }, []) := by
  rw [onRemoveClientCompleteCb, h]
  rfl

end Functions

/-! ## The invariant -/

namespace System

/-- The count is that of the instances, what is to be acknowledged is of instances that were
destroyed, and an entry holds the mask of what is to be acknowledged. -/
structure Inv (s : System) : Prop where
  refCount : s.gData.gOSFrameworkRefCount.toNat = s.gData.clientData.size % 2 ^ 32
  size_le : s.gData.clientData.size ≤ s.peak
  framework : s.peak < 2 ^ 32 → (s.osFramework = true ↔ s.gData.clientData.size ≠ 0)
  allocated : ∀ client, (s.gData.clientData.find? client).isSome = true → client ∈ s.allocated
  ack : ∀ client ad, (client, ad) ∈ s.acks →
    client ∈ s.allocated ∧ s.gData.clientData.find? client = none
  entry : ∀ client data, s.gData.destroyClientData.find? client = some data →
    data.waitAdapterMask = LocationAPIData.maskOf (fun ad ↦ decide ((client, ad) ∈ s.acks)) ∧
      ∃ ad, (client, ad) ∈ s.acks

theorem inv_init (interfaces loadFailed : Adapter → Bool) : Inv (init interfaces loadFailed) where
  refCount := rfl
  size_le := Nat.le_refl _
  framework _ := by simp [init, OrderedMap.size, OrderedMap.empty]
  allocated client h := by simp [init] at h
  ack client ad h := by simp [init] at h
  entry client data h := by simp [init] at h

variable {r : LocationAPIData × List Output} {client : ℕ}

/-- Nothing that a function did matters but the instances and the count. -/
theorem after_of_quiet (s : System) (h : ∀ o ∈ r.2, o.Quiet ∨ o = .createOSFramework) :
    (s.after r).1 =
      { s with
        gData := r.1
        osFramework := s.osFramework || r.2.contains .createOSFramework
        peak := max s.peak r.1.clientData.size } := by
  have hdeleted : deletedOf r.2 = ∅ := by
    refine Finset.eq_empty_of_forall_notMem fun client hmem ↦ ?_
    rcases h _ (mem_deletedOf.mp hmem) with hq | heq
    · exact hq
    · cases heq
  have hremovals : removalsOf r.2 = ∅ := by
    refine Finset.eq_empty_of_forall_notMem fun ⟨client, ad⟩ hmem ↦ ?_
    rcases h _ (mem_removalsOf.mp hmem) with hq | heq
    · exact hq
    · cases heq
  have hframework : r.2.contains .destroyOSFramework = false := by
    refine Bool.eq_false_iff.mpr fun hmem ↦ ?_
    rcases h _ (contains_iff_mem.mp hmem) with hq | heq
    · exact hq
    · cases heq
  rw [after, hdeleted, hremovals, frameworkAfter, hframework, Finset.sdiff_empty,
    Finset.union_empty, Bool.not_false, Bool.and_true]

theorem after_of_loads (s : System) {gData : LocationAPIData} (h : Loads gData r) :
    (s.after r).1 =
      { s with gData := r.1, peak := max s.peak r.1.clientData.size } := by
  rw [after_of_quiet s fun o ho ↦ Or.inl (h.quiet o ho)]
  have hcontains : r.2.contains .createOSFramework = false :=
    Bool.eq_false_iff.mpr fun hmem ↦ h.quiet _ (contains_iff_mem.mp hmem)
  rw [hcontains, Bool.or_false]

variable {s : System}

/-- What is done to the interfaces is of no matter, and neither is what the callbacks are. -/
theorem Inv.of_loads (h : Inv s) {gData : LocationAPIData}
    (hloads : Loads gData r) (hdestroy : gData.destroyClientData = s.gData.destroyClientData)
    (hcount : gData.gOSFrameworkRefCount = s.gData.gOSFrameworkRefCount)
    (hsize : gData.clientData.size = s.gData.clientData.size)
    (hfind : ∀ client, gData.clientData.find? client = none ↔
      s.gData.clientData.find? client = none) : Inv (s.after r).1 := by
  rw [after_of_loads s hloads]
  have hsize' : r.1.clientData.size = s.gData.clientData.size := by rw [hloads.clientData, hsize]
  have hpeak : max s.peak r.1.clientData.size = s.peak := by
    rw [hsize', Nat.max_eq_left h.size_le]
  rw [hpeak]
  exact {
    refCount := by
      change r.1.gOSFrameworkRefCount.toNat = r.1.clientData.size % 2 ^ 32
      rw [hloads.refCount, hcount, hsize', h.refCount]
    size_le := hsize'.le.trans h.size_le
    framework := fun hlt ↦ by
      change s.osFramework = true ↔ r.1.clientData.size ≠ 0
      rw [hsize', h.framework hlt]
    allocated := fun client hlive ↦ by
      refine h.allocated client ?_
      change (r.1.clientData.find? client).isSome = true at hlive
      rw [hloads.clientData, isSome_iff_ne_none] at hlive
      rw [isSome_iff_ne_none]
      exact fun hnone ↦ hlive ((hfind client).mpr hnone)
    ack := fun client ad hack ↦ by
      refine ⟨(h.ack client ad hack).1, ?_⟩
      change r.1.clientData.find? client = none
      rw [hloads.clientData, hfind]
      exact (h.ack client ad hack).2
    entry := fun client data hentry ↦ by
      change r.1.destroyClientData.find? client = some data at hentry
      rw [hloads.destroyClientData, hdestroy] at hentry
      exact h.entry client data hentry }

theorem find?_eq_none_of_not_allocated (h : Inv s) (hclient : client ∉ s.allocated) :
    s.gData.clientData.find? client = none := by
  by_contra hne
  exact hclient (h.allocated client (isSome_iff_ne_none.mpr hne))

theorem Inv.create (h : Inv s) {available : Adapter → Bool} {cbs : LocationCallbacks}
    (hclient : client ∉ s.allocated) (hmandatory : cbs.mandatory = true) :
    Inv ({ s with allocated := insert client s.allocated }.after
      (s.gData.createInstance available cbs client)).1 := by
  have hclients : (s.gData.createInstance available cbs client).1.clientData =
      s.gData.clientData.insert client cbs := createInstance_clientData hmandatory
  have hcount : (s.gData.createInstance available cbs client).1.gOSFrameworkRefCount =
      s.gData.gOSFrameworkRefCount + 1 := createInstance_refCount hmandatory
  have hframework : .createOSFramework ∈ (s.gData.createInstance available cbs client).2 ↔
      s.gData.gOSFrameworkRefCount + 1 = 1 := createOSFramework_mem_createInstance hmandatory
  have hentries : (s.gData.createInstance available cbs client).1.destroyClientData =
      s.gData.destroyClientData := createInstance_destroyClientData
  rw [after_of_quiet _ fun o ho ↦ createInstance_quiet ho]
  generalize s.gData.createInstance available cbs client = r at hclients hcount hframework hentries
  have hsize : r.1.clientData.size = s.gData.clientData.size + 1 := by
    rw [hclients]
    exact OrderedMap.size_insert_of_find?_eq_none (find?_eq_none_of_not_allocated h hclient)
  exact {
    refCount := by
      change r.1.gOSFrameworkRefCount.toNat = r.1.clientData.size % 2 ^ 32
      rw [hcount, hsize, UInt32.toNat_add, h.refCount, UInt32.toNat_one, Nat.mod_add_mod]
    size_le := Nat.le_max_right _ _
    framework := fun hlt ↦ by
      change (s.osFramework || r.2.contains .createOSFramework) = true ↔ r.1.clientData.size ≠ 0
      refine iff_of_true ?_ (by omega)
      have hpeak : max s.peak r.1.clientData.size < 2 ^ 32 := hlt
      rw [Bool.or_eq_true, contains_iff_mem, hframework,
        h.framework (lt_of_le_of_lt (Nat.le_max_left _ _) hpeak)]
      by_cases hzero : s.gData.clientData.size = 0
      · -- the first instance: the count becomes one
        refine Or.inr (UInt32.toNat_inj.mp ?_)
        rw [UInt32.toNat_add, h.refCount, hzero]
        rfl
      · exact Or.inl hzero
    allocated := fun client' hlive ↦ by
      change (r.1.clientData.find? client').isSome = true at hlive
      rw [hclients, find?_insert] at hlive
      by_cases heq : client' = client
      · exact heq ▸ Finset.mem_insert_self _ _
      · rw [if_neg heq] at hlive
        exact Finset.mem_insert_of_mem (h.allocated client' hlive)
    ack := fun client' ad hack ↦ by
      obtain ⟨hallocated, hnone⟩ := h.ack client' ad hack
      refine ⟨Finset.mem_insert_of_mem hallocated, ?_⟩
      change r.1.clientData.find? client' = none
      rw [hclients, find?_insert, if_neg (ne_of_mem_of_not_mem hallocated hclient), hnone]
    entry := fun client' data hentry ↦ by
      change r.1.destroyClientData.find? client' = some data at hentry
      rw [hentries] at hentry
      exact h.entry client' data hentry }

theorem Inv.update (h : Inv s) {available : Adapter → Bool} {cbs : LocationCallbacks}
    (hlive : (s.gData.clientData.find? client).isSome = true) :
    Inv (s.after (s.gData.updateCallbacks available cbs client)).1 := by
  obtain ⟨cbs', hfind⟩ := Option.isSome_iff_exists.mp hlive
  refine h.of_loads loads_updateCallbacks rfl rfl ?_ fun client' ↦ ?_
  · rw [updateCallbacks_clientData]
    split
    · exact OrderedMap.size_insert_of_find? hfind
    · rfl
  · rw [updateCallbacks_clientData]
    split
    · rw [find?_insert]
      split
      · next heq => rw [heq, hfind]; simp
      · rfl
    · rfl

theorem Inv.destroy (h : Inv s) {destroyCompleteCb : Option ℕ}
    (hlive : (s.gData.clientData.find? client).isSome = true) :
    Inv (s.after (s.gData.destroy destroyCompleteCb client)).1 := by
  obtain ⟨cbs, hfind⟩ := Option.isSome_iff_exists.mp hlive
  have hsize := OrderedMap.size_erase_of_find? hfind
  have hclients : (s.gData.destroy destroyCompleteCb client).1.clientData =
      s.gData.clientData.erase client := by rw [destroy_of_live hlive]
  have hcount : (s.gData.destroy destroyCompleteCb client).1.gOSFrameworkRefCount =
      s.gData.gOSFrameworkRefCount - 1 := by rw [destroy_of_live hlive]
  have hacks : ∀ client' ad,
      (client', ad) ∈ (s.after (s.gData.destroy destroyCompleteCb client)).1.acks ↔
        (client', ad) ∈ s.acks ∨ client' = client ∧ s.gData.interfaces ad = true :=
    fun client' ad ↦ by
      rw [after, Finset.mem_union, mem_removalsOf, removeClient_mem_destroy hlive]
  have hallocated : ∀ client',
      client' ∈ (s.after (s.gData.destroy destroyCompleteCb client)).1.allocated ↔
        client' ∈ s.allocated ∧ ¬(client' = client ∧ s.gData.needToWait = false ∧
          destroyCompleteCb.isSome = true) :=
    fun client' ↦ by rw [after, Finset.mem_sdiff, mem_deletedOf, delete_mem_destroy hlive]
  have hno : ∀ ad, (client, ad) ∉ s.acks := fun ad hack ↦ by
    rw [(h.ack client ad hack).2] at hfind
    cases hfind
  exact {
    refCount := by
      change (s.gData.destroy _ client).1.gOSFrameworkRefCount.toNat =
        (s.gData.destroy _ client).1.clientData.size % 2 ^ 32
      rw [hclients, hcount, UInt32.toNat_sub, h.refCount, UInt32.toNat_one]
      omega
    size_le := Nat.le_max_right _ _
    framework := fun hlt ↦ by
      change frameworkAfter s.osFramework (s.gData.destroy _ client).2 = true ↔
        (s.gData.destroy _ client).1.clientData.size ≠ 0
      have hpeak : s.peak < 2 ^ 32 := lt_of_le_of_lt (Nat.le_max_left _ _) hlt
      have hcreate : .createOSFramework ∉ (s.gData.destroy destroyCompleteCb client).2 :=
        createOSFramework_not_mem_destroy hlive
      have hone : s.gData.gOSFrameworkRefCount = 1 ↔ s.gData.clientData.size = 1 := by
        rw [← UInt32.toNat_inj, h.refCount, UInt32.toNat_one,
          Nat.mod_eq_of_lt (lt_of_le_of_lt h.size_le hpeak)]
      rw [frameworkAfter, Bool.and_eq_true, Bool.or_eq_true, contains_iff_mem,
        Bool.not_eq_true', ← Bool.not_eq_true, contains_iff_mem, h.framework hpeak,
        destroyOSFramework_mem_destroy hlive, hone, hclients]
      constructor
      · rintro ⟨-, hne⟩
        omega
      · exact fun hne ↦ ⟨Or.inl (by omega), by omega⟩
    allocated := fun client' hlive' ↦ by
      change ((s.gData.destroy _ client).1.clientData.find? client').isSome = true at hlive'
      rw [hclients, find?_erase] at hlive'
      by_cases heq : client' = client
      · rw [if_pos heq] at hlive'
        cases hlive'
      · rw [if_neg heq] at hlive'
        exact (hallocated client').mpr ⟨h.allocated client' hlive', fun hdel ↦ heq hdel.1⟩
    ack := fun client' ad hack ↦ by
      change _ ∧ (s.gData.destroy _ client).1.clientData.find? client' = none
      rw [hclients, find?_erase, hallocated]
      rcases (hacks client' ad).mp hack with hold | ⟨heq, hloaded⟩
      · obtain ⟨hmem, hnone⟩ := h.ack client' ad hold
        refine ⟨⟨hmem, ?_⟩, by rw [hnone, ite_self]⟩
        rintro ⟨rfl, -⟩
        exact hno ad hold
      · refine ⟨⟨heq ▸ h.allocated client hlive, ?_⟩, if_pos heq⟩
        rintro ⟨-, hwait, -⟩
        rw [needToWait_eq_false.mp hwait ad] at hloaded
        cases hloaded
    entry := fun client' data hentry ↦ by
      change (s.gData.destroy _ client).1.destroyClientData.find? client' = some data at hentry
      rw [destroy_find?_destroyClientData hlive] at hentry
      have hold : s.gData.destroyClientData.find? client' = some data → data.waitAdapterMask =
          LocationAPIData.maskOf (fun ad ↦ decide ((client', ad) ∈
            (s.after (s.gData.destroy destroyCompleteCb client)).1.acks)) ∧
          ∃ ad, (client', ad) ∈ (s.after (s.gData.destroy destroyCompleteCb client)).1.acks := by
        intro hentry
        obtain ⟨hmask, ad, hack⟩ := h.entry client' data hentry
        have hne : client' ≠ client := fun heq ↦ hno ad (heq ▸ hack)
        refine ⟨hmask.trans (congrArg LocationAPIData.maskOf (funext fun ad' ↦ ?_)), ad,
          (hacks client' ad).mpr (Or.inl hack)⟩
        refine decide_eq_decide.mpr (Iff.symm ((hacks client' ad').trans ?_))
        exact or_iff_left fun hnew ↦ hne hnew.1
      cases destroyCompleteCb with
      | none => exact hold hentry
      | some cb =>
        dsimp only at hentry
        split at hentry
        · next hnew =>
          -- the removals that were just asked for are all there is to acknowledge
          obtain ⟨rfl, hwait⟩ := hnew
          obtain rfl := some_inj.mp hentry
          refine ⟨congrArg LocationAPIData.maskOf (funext fun ad ↦ ?_), ?_⟩
          · rw [Bool.eq_iff_iff, decide_eq_true_iff, hacks]
            exact ⟨fun hloaded ↦ Or.inr ⟨rfl, hloaded⟩,
              fun hor ↦ hor.elim (fun hold ↦ absurd hold (hno ad)) And.right⟩
          · by_contra hnone
            refine Bool.eq_false_iff.mp (needToWait_eq_false.mpr fun ad ↦ ?_) hwait
            exact Bool.eq_false_iff.mpr fun hloaded ↦
              hnone ⟨ad, (hacks _ ad).mpr (Or.inr ⟨rfl, hloaded⟩)⟩
        · exact hold hentry }

/-- Clearing the bit of the adapter leaves the mask of what is still to be acknowledged. -/
theorem clear_bit (h : Inv s) (ad : Adapter) {data : LocationAPIDestroyCbData}
    (hentry : s.gData.destroyClientData.find? client = some data) :
    data.waitAdapterMask &&& ~~~ad.bit =
      LocationAPIData.maskOf fun ad' ↦ decide ((client, ad') ∈ s.acks.erase (client, ad)) := by
  rw [(h.entry client data hentry).1, maskOf_and_not]
  refine congrArg LocationAPIData.maskOf (funext fun ad' ↦ ?_)
  rw [Bool.eq_iff_iff, Bool.and_eq_true, decide_eq_true_iff, decide_eq_true_iff,
    decide_eq_true_iff, Finset.mem_erase, and_comm]
  simp

/-- Fewer removals are to be acknowledged, and none of what was deleted. -/
theorem Inv.of_acknowledged (h : Inv s) {acks : Finset (ℕ × Adapter)} (deleted : Finset ℕ)
    (entries : OrderedMap ℕ LocationAPIDestroyCbData) (hacks : acks ⊆ s.acks)
    (hdeleted : ∀ client ∈ deleted,
      s.gData.clientData.find? client = none ∧ ∀ ad, (client, ad) ∉ acks)
    (hentries : ∀ client data, entries.find? client = some data →
      data.waitAdapterMask = LocationAPIData.maskOf (fun ad ↦ decide ((client, ad) ∈ acks)) ∧
        ∃ ad, (client, ad) ∈ acks) :
    Inv { s with
      gData := { s.gData with destroyClientData := entries }
      allocated := s.allocated \ deleted
      acks := acks } where
  refCount := h.refCount
  size_le := h.size_le
  framework := h.framework
  allocated client hlive := by
    refine Finset.mem_sdiff.mpr ⟨h.allocated client hlive, fun hmem ↦ ?_⟩
    rw [(hdeleted client hmem).1] at hlive
    cases hlive
  ack client ad hack := by
    obtain ⟨hallocated, hnone⟩ := h.ack client ad (hacks hack)
    exact ⟨Finset.mem_sdiff.mpr ⟨hallocated, fun hmem ↦ (hdeleted client hmem).2 ad hack⟩, hnone⟩
  entry := hentries

theorem Inv.acknowledge (h : Inv s) {ad : Adapter} (hack : (client, ad) ∈ s.acks) :
    Inv ({ s with acks := s.acks.erase (client, ad) }.after
      (s.gData.onRemoveClientCompleteCb ad client)).1 := by
  have hsub : s.acks.erase (client, ad) ⊆ s.acks := Finset.erase_subset _ _
  have hpeak : max s.peak s.gData.clientData.size = s.peak := Nat.max_eq_left h.size_le
  -- the entries of the others are not touched
  have hother : ∀ client' data, client' ≠ client →
      s.gData.destroyClientData.find? client' = some data →
      data.waitAdapterMask = LocationAPIData.maskOf
        (fun ad' ↦ decide ((client', ad') ∈ s.acks.erase (client, ad))) ∧
      ∃ ad', (client', ad') ∈ s.acks.erase (client, ad) := by
    intro client' data hne hentry
    obtain ⟨hmask, ad', hack'⟩ := h.entry client' data hentry
    have hmem : ∀ ad', (client', ad') ∈ s.acks.erase (client, ad) ↔ (client', ad') ∈ s.acks :=
      fun ad' ↦ Finset.mem_erase.trans
        (and_iff_right fun heq ↦ hne (congrArg Prod.fst heq))
    refine ⟨hmask.trans (congrArg LocationAPIData.maskOf (funext fun ad' ↦ ?_)), ad',
      (hmem ad').mpr hack'⟩
    exact decide_eq_decide.mpr (hmem ad').symm
  cases hfind : s.gData.destroyClientData.find? client with
  | none =>
    rw [onRemoveClientCompleteCb_of_none ad hfind, after_of_quiet _ fun _ ho ↦ absurd ho not_mem_nil]
    have hinv := h.of_acknowledged ∅ s.gData.destroyClientData hsub
      (fun _ hmem ↦ absurd hmem (Finset.notMem_empty _)) fun client' data hentry ↦
        hother client' data (fun heq ↦ by rw [heq, hfind] at hentry; cases hentry) hentry
    rw [Finset.sdiff_empty] at hinv
    rw [contains_nil, Bool.or_false, hpeak]
    exact hinv
  | some data =>
    have hmask := clear_bit h ad hfind
    rw [onRemoveClientCompleteCb_of_some hfind]
    split
    · next hzero =>
      -- nothing is left to acknowledge
      rw [hmask, maskOf_eq_zero] at hzero
      have hnone : ∀ ad', (client, ad') ∉ s.acks.erase (client, ad) :=
        fun ad' ↦ of_decide_eq_false (hzero ad')
      have hinv := h.of_acknowledged {client} (s.gData.destroyClientData.erase client) hsub
        (fun client' hmem ↦ by
          obtain rfl := Finset.mem_singleton.mp hmem
          exact ⟨(h.ack _ ad hack).2, hnone⟩) fun client' data' hentry ↦ by
          rw [find?_erase] at hentry
          split at hentry
          · cases hentry
          · next hne => exact hother client' data' hne hentry
      rw [after, hpeak]
      simpa [deletedOf, removalsOf, frameworkAfter] using hinv
    · next hne =>
      rw [hmask, maskOf_eq_zero, not_forall] at hne
      obtain ⟨ad', hmem⟩ := hne
      rw [after_of_quiet _ fun _ ho ↦ absurd ho not_mem_nil]
      dsimp only
      rw [contains_nil, Bool.or_false, hpeak]
      have hinv := h.of_acknowledged ∅
        (s.gData.destroyClientData.insert client
          { data with waitAdapterMask := data.waitAdapterMask &&& ~~~ad.bit }) hsub
        (fun _ hmem ↦ absurd hmem (Finset.notMem_empty _)) fun client' data' hentry ↦ by
          rw [find?_insert] at hentry
          split at hentry
          · next heq =>
            subst heq
            obtain rfl := some_inj.mp hentry
            exact ⟨hmask, ad', of_decide_eq_true ((Bool.not_eq_false _).mp hmem)⟩
          · next hne' => exact hother client' data' hne' hentry
      rw [Finset.sdiff_empty] at hinv
      exact hinv

/-- What a step can be -/
inductive Steps (s : System) : Event → System × List Output → Prop
  | create {client : ℕ} {cbs : LocationCallbacks} {available : Adapter → Bool} :
    client ∉ s.allocated → cbs.mandatory = true →
      Steps s (.create client cbs available)
        ({ s with allocated := insert client s.allocated }.after
          (s.gData.createInstance available cbs client))
  | refuse {client : ℕ} {cbs : LocationCallbacks} {available : Adapter → Bool} :
    client ∉ s.allocated → cbs.mandatory = false →
      Steps s (.create client cbs available) (s.after (s.gData, []))
  | update {client : ℕ} {cbs : LocationCallbacks} {available : Adapter → Bool} :
    (s.gData.clientData.find? client).isSome = true →
      Steps s (.update client cbs available) (s.after (s.gData.updateCallbacks available cbs client))
  | destroy {client : ℕ} {destroyCompleteCb : Option ℕ} :
    (s.gData.clientData.find? client).isSome = true →
      Steps s (.destroy client destroyCompleteCb)
        (s.after (s.gData.destroy destroyCompleteCb client))
  | ack {client : ℕ} {ad : Adapter} :
    (client, ad) ∈ s.acks →
      Steps s (.ack client ad)
        ({ s with acks := s.acks.erase (client, ad) }.after
          (s.gData.onRemoveClientCompleteCb ad client))
  | control {available : Adapter → Bool} :
    Steps s (.control available) (s.after (s.gData.loadInterface .gnss available))

theorem steps_of_step {e : Event} {r : System × List Output} (h : s.step e = some r) :
    Steps s e r := by
  cases e with
  | create client cbs available =>
    rw [System.step] at h
    split at h
    · cases h
    · next hclient =>
      obtain rfl := some_inj.mp h
      cases hmandatory : cbs.mandatory with
      | true => exact .create hclient hmandatory
      | false =>
        rw [createInstance_of_not_mandatory hmandatory]
        exact .refuse hclient hmandatory
  | update client cbs available =>
    rw [System.step] at h
    split at h
    · next hlive =>
      obtain rfl := some_inj.mp h
      exact .update hlive
    · cases h
  | destroy client destroyCompleteCb =>
    rw [System.step] at h
    split at h
    · next hlive =>
      obtain rfl := some_inj.mp h
      exact .destroy hlive
    · cases h
  | ack client ad =>
    rw [System.step] at h
    split at h
    · next hack =>
      obtain rfl := some_inj.mp h
      exact .ack hack
    · cases h
  | control available =>
    obtain rfl := some_inj.mp h
    exact .control

theorem Inv.step (h : Inv s) {e : Event} {r : System × List Output} (hstep : s.step e = some r) :
    Inv r.1 := by
  cases steps_of_step hstep with
  | create hclient hmandatory => exact h.create hclient hmandatory
  | refuse => exact h.of_loads (.refl _) rfl rfl rfl fun _ ↦ Iff.rfl
  | update hlive => exact h.update hlive
  | destroy hlive => exact h.destroy hlive
  | ack hack => exact h.acknowledge hack
  | control => exact h.of_loads (loads_loadInterface .gnss) rfl rfl rfl fun _ ↦ Iff.rfl

end System

end MataDevice.LocationApi
