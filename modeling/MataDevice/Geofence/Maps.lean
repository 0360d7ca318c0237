import MataDevice.Geofence.Adapter

/-!
# The two maps of the geofence adapter are inverse to each other

When nothing is on its way, `mGeofenceIds` has a hardware id for a key exactly if `mGeofences` has a
geofence with this key for the hardware id, and a breach is reported to the client that owns the
geofence, under the id of the client.

Two answers of the engine can break this. `stopClientSessions` takes a geofence out of
`mGeofenceIds` at once and out of `mGeofences` only if the engine has removed it, so that an error
leaves a geofence without an owner. And when the engine has started anew it may give out a hardware
id that the adapter still knows from before. Then the new geofence takes the place of the old one,
or the answer to an earlier removal removes the new one.
-/

namespace MataDevice.Geofence

open List
open MataDevice.Tracking (LocationAPI LocationError EngineLockState)
open Option (some_inj ite_none_left_eq_some map_some)
open OrderedMap (find?_eq_some_iff find?_erase find?_insert mem_values_of_find?)

/-- The key an entry of the queue will enter into the maps. -/
def Pending.newKey : Pending → Option GeofenceKey
  | .callAdd key _ _ | .add key _ _ => some key
  | .restartAdd object => some object.key
  | _ => none

/-- The keys that will be entered into the maps. -/
def newKeys (queue : List Pending) : List GeofenceKey := queue.filterMap Pending.newKey

/-- The entry is a removal of `stopClientSessions`. -/
def Pending.Stops (hwId : ℕ) (entry : Pending) : Prop := ∃ id, entry = .stopRemove hwId id

namespace GeofenceAdapter

/-- The id under which `mGeofenceIds` has a hardware id for a client. -/
def idOf (s : GeofenceAdapter) (client : LocationAPI) (hwId : ℕ) : Option ℕ :=
  (s.mGeofenceIds.entries.find? fun e ↦ e.1.client = client ∧ e.2 = hwId).map (·.1.id)

/-- The maps are inverse to each other, and breaches go to the owners. -/
structure Inverse (s : GeofenceAdapter) : Prop where
  find?_iff : ∀ key hwId, s.mGeofenceIds.find? key = some hwId ↔
    ∃ object, s.mGeofences.find? hwId = some object ∧ object.key = key
  breach : ∀ mClientData hwIds client clientIds,
    (client, clientIds) ∈ s.geofenceBreach mClientData hwIds ↔
      mClientData.find? client = some true ∧ clientIds ≠ [] ∧
        clientIds = hwIds.filterMap (s.idOf client)

/-! ## The steps of a run -/

/-- The engine lock is enabled, and the ids of new geofences are new. -/
def Regular (s : GeofenceAdapter) : Event → Prop
  | .addGeofences client ids _ _ => ids.Nodup ∧ ∀ id ∈ ids,
    ⟨client, id⟩ ∉ newKeys s.queue ∧ ∀ object ∈ s.mGeofences.values, object.key ≠ ⟨client, id⟩
  | .engineUp lock | .answer lock _ _ => lock = .enabled
  | _ => True

instance (s : GeofenceAdapter) : ∀ e, Decidable (s.Regular e)
  | .addGeofences client ids _ _ => inferInstanceAs (Decidable (_ ∧ _))
  | .engineUp lock | .answer lock _ _ => inferInstanceAs (Decidable (_ = _))
  | .removeGeofences .. | .pauseGeofences .. | .resumeGeofences .. | .modifyGeofences .. |
    .stopClientSessions _ | .engineReset => inferInstanceAs (Decidable True)

/-- The hardware id belongs to a geofence that both maps know. -/
def Live (s : GeofenceAdapter) (hwId : ℕ) : Prop :=
  ∃ object ∈ s.mGeofences.find? hwId, s.mGeofenceIds.find? object.key = some hwId

instance (s : GeofenceAdapter) (hwId : ℕ) : Decidable (s.Live hwId) :=
  inferInstanceAs (Decidable (∃ object ∈ s.mGeofences.find? hwId, _))

/-- A new geofence does not take the place of another one. A removal of `stopClientSessions`
succeeds if there is something to remove, and does not if there is another geofence in its place. -/
def SafeAnswer (s : GeofenceAdapter) (err : LocationError) (hwId : ℕ) : Pending → Prop
  | .add .. | .restartAdd _ => err = .success → ¬s.Live hwId
  | .stopRemove hwId' _ =>
    (s.mGeofences.find? hwId').isSome → (err = .success ↔ ¬s.Live hwId')
  | _ => True

instance (s : GeofenceAdapter) (err : LocationError) (hwId : ℕ) :
    ∀ entry, Decidable (s.SafeAnswer err hwId entry)
  | .add .. | .restartAdd _ => inferInstanceAs (Decidable (_ → _))
  | .stopRemove hwId' _ => inferInstanceAs (Decidable (_ → _))
  | .callAdd .. | .callRemove _ | .callPause _ | .callResume _ | .callModify .. | .remove .. |
    .pause .. | .resume .. | .modify .. | .restartPause .. => inferInstanceAs (Decidable True)

/-- The engine answers what comes back in such a way. -/
def Safe (s : GeofenceAdapter) : Event → Prop
  | .answer _ err hwId => ∀ entry ∈ s.queue.head?, s.SafeAnswer err hwId entry
  | _ => True

instance (s : GeofenceAdapter) : ∀ e, Decidable (s.Safe e)
  | .answer _ err hwId => inferInstanceAs (Decidable (∀ entry ∈ s.queue.head?, _))
  | .addGeofences .. | .engineUp _ | .removeGeofences .. | .pauseGeofences .. |
    .resumeGeofences .. | .modifyGeofences .. | .stopClientSessions _ | .engineReset =>
    inferInstanceAs (Decidable True)

/-- What holds while requests are on their way. -/
structure Consistent (s : GeofenceAdapter) : Prop where
  forward : ∀ key hwId, s.mGeofenceIds.find? key = some hwId →
    ∃ object, s.mGeofences.find? hwId = some object ∧ object.key = key
  /-- A geofence that has no owner is being removed. -/
  backward : ∀ hwId object, s.mGeofences.find? hwId = some object →
    s.mGeofenceIds.find? object.key = some hwId ∨ ∃ entry ∈ s.queue, entry.Stops hwId
  injective : ∀ hwId hwId' object object', s.mGeofences.find? hwId = some object →
    s.mGeofences.find? hwId' = some object' → object.key = object'.key → hwId = hwId'
  /-- What is being added is not there yet, and is added once. -/
  notHeld : ∀ hwId object, s.mGeofences.find? hwId = some object → object.key ∉ newKeys s.queue
  nodup : (newKeys s.queue).Nodup

theorem consistent_initial : initial.Consistent where
  forward := by simp [initial]
  backward := by simp [initial]
  injective := by simp [initial]
  notHeld := by simp [initial]
  nodup := nodup_nil

variable {s : GeofenceAdapter} {queue : List Pending} {entry : Pending} {key : GeofenceKey}
  {hwId : ℕ} {object : GeofenceObject}

/-! ## What is sent and what comes back -/

@[simp] theorem newKeys_append (entries : List Pending) :
    newKeys (queue ++ entries) = newKeys queue ++ newKeys entries :=
  filterMap_append

/-- Entries that add nothing. -/
theorem newKeys_map_eq_nil {α : Type} (l : List α) {f : α → Pending}
    (hf : ∀ a, (f a).newKey = none) : newKeys (l.map f) = [] := by
  rw [newKeys, filterMap_map]
  exact filterMap_eq_nil_iff.mpr fun a _ ↦ hf a

/-- Entries that all add something. -/
theorem newKeys_map_eq_map {α : Type} (l : List α) {f : α → Pending} {g : α → GeofenceKey}
    (hf : ∀ a, (f a).newKey = some (g a)) : newKeys (l.map f) = l.map g := by
  rw [newKeys, filterMap_map, show Pending.newKey ∘ f = some ∘ g from funext hf,
    filterMap_eq_map]

section

variable (h : s.Consistent)
include h

theorem Consistent.send {entries : List Pending} (hnodup : (newKeys entries).Nodup)
    (hnew : ∀ key ∈ newKeys entries, key ∉ newKeys s.queue ∧
      ∀ object ∈ s.mGeofences.values, object.key ≠ key) : (s.send entries).1.Consistent where
  forward := h.forward
  backward := by
    intro hwId object hobj
    rcases h.backward hwId object hobj with hids | ⟨entry, hmem, hstops⟩
    · exact Or.inl hids
    · exact Or.inr ⟨entry, mem_append_left _ hmem, hstops⟩
  injective := h.injective
  notHeld := by
    intro hwId object hobj hmem
    rw [GeofenceAdapter.send, newKeys_append, mem_append] at hmem
    rcases hmem with hmem | hmem
    · exact h.notHeld hwId object hobj hmem
    · exact (hnew object.key hmem).2 object (mem_values_of_find? hobj) rfl
  nodup := by
    rw [GeofenceAdapter.send, newKeys_append]
    refine nodup_append.mpr ⟨h.nodup, hnodup, ?_⟩
    rintro key hkey _ hkey' rfl
    exact (hnew key hkey').1 hkey

/-- Nothing is added. -/
theorem Consistent.send_of_newKeys {entries : List Pending}
    (hnone : newKeys entries = []) : (s.send entries).1.Consistent := by
  refine h.send ?_ ?_
  · rw [hnone]
    exact nodup_nil
  · rw [hnone]
    simp

/-- The first entry of the queue has come back. -/
theorem Consistent.pop (hqueue : s.queue = entry :: queue) {engine : List ℕ}
    (hstops : ∀ hwId, ¬entry.Stops hwId) :
    GeofenceAdapter.Consistent { s with queue := queue, engine := engine } where
  forward := h.forward
  backward := by
    intro hwId object hobj
    rcases h.backward hwId object hobj with hids | ⟨entry', hmem, hstops'⟩
    · exact Or.inl hids
    · rw [hqueue] at hmem
      rcases mem_cons.mp hmem with rfl | hmem
      · exact absurd hstops' (hstops hwId)
      · exact Or.inr ⟨entry', hmem, hstops'⟩
  injective := h.injective
  notHeld := by
    intro hwId object hobj hmem
    refine h.notHeld hwId object hobj ?_
    rw [hqueue]
    exact ((sublist_cons_self entry queue).filterMap _).subset hmem
  nodup := by
    have hnodup := h.nodup
    rw [hqueue] at hnodup
    exact hnodup.sublist ((sublist_cons_self entry queue).filterMap _)

/-- The key of an entry that has come back is new. -/
theorem Consistent.new_of_pop (hqueue : s.queue = entry :: queue) (hkey : entry.newKey = some key) :
    key ∉ newKeys queue ∧ ∀ object ∈ s.mGeofences.values, object.key ≠ key := by
  have hcons : newKeys s.queue = key :: newKeys queue := by
    rw [hqueue]
    exact filterMap_cons_some hkey
  refine ⟨?_, ?_⟩
  · have hnodup := h.nodup
    rw [hcons] at hnodup
    exact (nodup_cons.mp hnodup).1
  · rintro object hobj rfl
    obtain ⟨⟨hwId, object'⟩, hmem, rfl⟩ := mem_map.mp hobj
    refine h.notHeld hwId object' (find?_eq_some_iff.mpr hmem) ?_
    rw [hcons]
    exact mem_cons_self

/-! ## The items -/

theorem Consistent.saveGeofenceItem (hkey : key ∉ newKeys s.queue)
    (hheld : ∀ object ∈ s.mGeofences.values, object.key ≠ key) (hlive : ¬s.Live hwId)
    (options : GeofenceOption) (info : GeofenceInfo) :
    (s.saveGeofenceItem key hwId options info).Consistent := by
  -- the geofences after it: the new one, and those under another hardware id
  have hcases : ∀ hwId' object, (s.saveGeofenceItem key hwId options info).mGeofences.find? hwId' =
      some object → (hwId' = hwId ∧ object.key = key) ∨
        (hwId' ≠ hwId ∧ s.mGeofences.find? hwId' = some object ∧ object.key ≠ key) := by
    intro hwId' object hobj
    rw [GeofenceAdapter.saveGeofenceItem, find?_insert] at hobj
    split at hobj
    · next heq =>
      obtain rfl := some_inj.mp hobj
      exact Or.inl ⟨heq, rfl⟩
    · next hne => exact Or.inr ⟨hne, hobj, hheld object (mem_values_of_find? hobj)⟩
  refine ⟨fun key' hwId' hids ↦ ?_, fun hwId' object hobj ↦ ?_, fun hwId' hwId'' object object' hobj
    hobj' heq ↦ ?_, fun hwId' object hobj ↦ ?_, h.nodup⟩
  · rw [GeofenceAdapter.saveGeofenceItem, find?_insert] at hids
    rw [GeofenceAdapter.saveGeofenceItem, find?_insert]
    split at hids
    · next heq =>
      obtain rfl := some_inj.mp hids
      exact ⟨_, if_pos rfl, heq.symm⟩
    · obtain ⟨object, hobj, hkey'⟩ := h.forward key' hwId' hids
      have hne : hwId' ≠ hwId := by
        rintro rfl
        exact hlive ⟨object, hobj, by rw [hkey', hids]⟩
      exact ⟨object, by rw [if_neg hne, hobj], hkey'⟩
  · rw [GeofenceAdapter.saveGeofenceItem, find?_insert]
    rcases hcases hwId' object hobj with ⟨rfl, hkey'⟩ | ⟨-, hold, hne⟩
    · exact Or.inl (if_pos hkey')
    · rw [if_neg hne]
      exact h.backward hwId' object hold
  · rcases hcases hwId' object hobj with ⟨rfl, hkey'⟩ | ⟨-, hold, hne⟩
    · rcases hcases hwId'' object' hobj' with ⟨rfl, -⟩ | ⟨-, -, hne'⟩
      · rfl
      · exact absurd (heq.symm.trans hkey') hne'
    · rcases hcases hwId'' object' hobj' with ⟨rfl, hkey''⟩ | ⟨-, hold', -⟩
      · exact absurd (heq.trans hkey'') hne
      · exact h.injective hwId' hwId'' object object' hold hold' heq
  · rcases hcases hwId' object hobj with ⟨-, hkey'⟩ | ⟨-, hold, -⟩
    · rw [hkey']
      exact hkey
    · exact h.notHeld hwId' object hold

/-- A geofence that both maps know is taken out of both. -/
theorem Consistent.removeGeofenceItem (hwId : ℕ) :
    (s.removeGeofenceItem hwId).Consistent := by
  rw [GeofenceAdapter.removeGeofenceItem, getGeofenceKeyFromHwId]
  cases hobj : s.mGeofences.find? hwId with
  | none => exact h
  | some object =>
    simp only [map_some]
    split
    · next hwId' hids =>
      -- the hardware id of the key is the one the geofence is under
      obtain ⟨object', hobj', hkey'⟩ := h.forward object.key hwId' hids
      obtain rfl := h.injective hwId' hwId object' object hobj' hobj hkey'
      have hne : ∀ hwId'' object'', (s.mGeofences.erase hwId').find? hwId'' = some object'' →
          s.mGeofences.find? hwId'' = some object'' ∧ object''.key ≠ object.key := by
        intro hwId'' object'' hobj''
        rw [find?_erase] at hobj''
        obtain ⟨hne, hobj''⟩ := ite_none_left_eq_some.mp hobj''
        exact ⟨hobj'', fun heq ↦ hne (h.injective hwId'' hwId' object'' object hobj'' hobj heq)⟩
      refine ⟨fun key hwId'' hids'' ↦ ?_, fun hwId'' object'' hobj'' ↦ ?_,
        fun hwId₁ hwId₂ object₁ object₂ h₁ h₂ heq ↦ ?_, fun hwId'' object'' hobj'' ↦ ?_, h.nodup⟩
      · rw [find?_erase] at hids'' ⊢
        obtain ⟨hkey, hids''⟩ := ite_none_left_eq_some.mp hids''
        obtain ⟨object'', hobj'', rfl⟩ := h.forward key hwId'' hids''
        refine ⟨object'', ?_, rfl⟩
        rw [if_neg, hobj'']
        rintro rfl
        obtain rfl := some_inj.mp (hobj.symm.trans hobj'')
        exact hkey rfl
      · obtain ⟨hold, hkey⟩ := hne hwId'' object'' hobj''
        rw [find?_erase, if_neg hkey]
        exact h.backward hwId'' object'' hold
      · exact h.injective hwId₁ hwId₂ object₁ object₂ (hne hwId₁ object₁ h₁).1
          (hne hwId₂ object₂ h₂).1 heq
      · exact h.notHeld hwId'' object'' (hne hwId'' object'' hobj'').1
    · exact h

/-- The fields of a geofence may change, its key does not. -/
theorem Consistent.updateGeofenceItem (hwId : ℕ)
    {f : GeofenceObject → GeofenceObject} (hf : ∀ object, (f object).key = object.key) :
    (s.updateGeofenceItem hwId f).Consistent := by
  rw [GeofenceAdapter.updateGeofenceItem]
  cases hobj : s.mGeofences.find? hwId with
  | none => exact h
  | some object =>
    have hold : ∀ hwId' object', (s.mGeofences.insert hwId (f object)).find? hwId' = some object' →
        ∃ object'', s.mGeofences.find? hwId' = some object'' ∧ object'.key = object''.key := by
      intro hwId' object' hobj'
      rw [find?_insert] at hobj'
      split at hobj'
      · next heq =>
        obtain rfl := some_inj.mp hobj'
        exact ⟨object, by rw [heq, hobj], hf object⟩
      · exact ⟨object', hobj', rfl⟩
    refine ⟨fun key hwId' hids ↦ ?_, fun hwId' object' hobj' ↦ ?_,
      fun hwId₁ hwId₂ object₁ object₂ h₁ h₂ heq ↦ ?_, fun hwId' object' hobj' ↦ ?_, h.nodup⟩
    · obtain ⟨object', hobj', hkey⟩ := h.forward key hwId' hids
      rw [find?_insert]
      split
      · next heq =>
        subst heq
        obtain rfl := some_inj.mp (hobj.symm.trans hobj')
        exact ⟨_, rfl, (hf object).trans hkey⟩
      · exact ⟨object', hobj', hkey⟩
    · obtain ⟨object'', hobj'', hkey⟩ := hold hwId' object' hobj'
      rw [hkey]
      exact h.backward hwId' object'' hobj''
    · obtain ⟨object₁', h₁', hkey₁⟩ := hold hwId₁ object₁ h₁
      obtain ⟨object₂', h₂', hkey₂⟩ := hold hwId₂ object₂ h₂
      exact h.injective hwId₁ hwId₂ object₁' object₂' h₁' h₂' (by rw [← hkey₁, heq, hkey₂])
    · obtain ⟨object'', hobj'', hkey⟩ := hold hwId' object' hobj'
      rw [hkey]
      exact h.notHeld hwId' object'' hobj''

/-! ## Stopping a client and starting again -/

theorem Consistent.stopClientSessions (client : LocationAPI) :
    (s.stopClientSessions client).1.Consistent where
  forward := by
    intro key hwId hids
    exact h.forward key hwId (OrderedMap.find?_filter_eq_some_iff.mp hids).1
  backward := by
    intro hwId object hobj
    rcases h.backward hwId object hobj with hids | ⟨entry, hmem, hstops⟩
    · by_cases hclient : object.key.client = client
      · -- the removal has been sent
        refine Or.inr ⟨.stopRemove hwId object.key.id, mem_append_right _ ?_, _, rfl⟩
        refine mem_map.mpr ⟨(object.key, hwId), mem_filter.mpr ⟨?_, ?_⟩, rfl⟩
        · exact find?_eq_some_iff.mp hids
        · simpa using hclient
      · exact Or.inl (OrderedMap.find?_filter_eq_some_iff.mpr ⟨hids, by simpa using hclient⟩)
    · exact Or.inr ⟨entry, mem_append_left _ hmem, hstops⟩
  injective := h.injective
  notHeld := by
    intro hwId object hobj
    rw [GeofenceAdapter.stopClientSessions, GeofenceAdapter.send, newKeys_append,
      newKeys_map_eq_nil _ (fun _ ↦ rfl), List.append_nil]
    exact h.notHeld hwId object hobj
  nodup := by
    rw [GeofenceAdapter.stopClientSessions, GeofenceAdapter.send, newKeys_append,
      newKeys_map_eq_nil _ (fun _ ↦ rfl), List.append_nil]
    exact h.nodup

/-- The geofences have different keys. -/
theorem Consistent.nodup_keys : (s.mGeofences.values.map (·.key)).Nodup := by
  rw [OrderedMap.values, map_map]
  refine List.Nodup.map_on ?_ (List.Nodup.of_map Prod.fst OrderedMap.nodup_keys)
  rintro ⟨hwId, object⟩ hmem ⟨hwId', object'⟩ hmem' heq
  obtain rfl := h.injective hwId hwId' object object' (find?_eq_some_iff.mpr hmem)
    (find?_eq_some_iff.mpr hmem') heq
  rw [OrderedMap.eq_of_mem_entries hmem hmem']

theorem Consistent.restartGeofences : s.restartGeofences.1.Consistent := by
  rw [GeofenceAdapter.restartGeofences]
  split
  · exact h
  · have hempty : GeofenceAdapter.Consistent
        { s with mGeofences := OrderedMap.empty, mGeofenceIds := OrderedMap.empty } :=
      ⟨by simp, by simp, by simp, by simp, h.nodup⟩
    refine hempty.send ?_ fun key hkey ↦ ⟨?_, by simp⟩
    · rw [newKeys_map_eq_map _ (fun _ ↦ rfl)]
      exact h.nodup_keys
    · rw [newKeys_map_eq_map _ (fun _ ↦ rfl)] at hkey
      obtain ⟨object, hobj, rfl⟩ := mem_map.mp hkey
      obtain ⟨⟨hwId, object'⟩, hmem, rfl⟩ := mem_map.mp hobj
      exact h.notHeld hwId object' (find?_eq_some_iff.mpr hmem)

/-- The answer to a removal of `stopClientSessions`. -/
theorem Consistent.stopRemove {id : ℕ} {err : LocationError} {engine : List ℕ}
    (hqueue : s.queue = .stopRemove hwId id :: queue)
    (hsafe : (s.mGeofences.find? hwId).isSome → (err = .success ↔ ¬s.Live hwId)) :
    GeofenceAdapter.Consistent (if err = .success then
      { s with mGeofences := s.mGeofences.erase hwId, queue := queue, engine := engine }
      else { s with queue := queue, engine := engine }) := by
  have hkeys : newKeys s.queue = newKeys queue := by
    rw [hqueue]
    exact filterMap_cons_none rfl
  -- a geofence under another hardware id is not concerned
  have hother : ∀ hwId' object, hwId' ≠ hwId → s.mGeofences.find? hwId' = some object →
      s.mGeofenceIds.find? object.key = some hwId' ∨ ∃ entry ∈ queue, entry.Stops hwId' := by
    intro hwId' object hne hobj
    rcases h.backward hwId' object hobj with hids | ⟨entry, hmem, id', rfl⟩
    · exact Or.inl hids
    · rw [hqueue] at hmem
      rcases mem_cons.mp hmem with heq | hmem
      · exact absurd (Pending.stopRemove.inj heq).1 hne
      · exact Or.inr ⟨_, hmem, id', rfl⟩
  split
  · next hsuccess =>
    refine ⟨fun key hwId' hids ↦ ?_, fun hwId' object hobj ↦ ?_,
      fun hwId₁ hwId₂ object₁ object₂ h₁ h₂ heq ↦ ?_, fun hwId' object hobj ↦ ?_, ?_⟩
    · obtain ⟨object, hobj, rfl⟩ := h.forward key hwId' hids
      refine ⟨object, ?_, rfl⟩
      rw [find?_erase, if_neg, hobj]
      rintro rfl
      exact (hsafe (by simp [hobj])).mp hsuccess ⟨object, hobj, hids⟩
    · rw [find?_erase] at hobj
      obtain ⟨hne, hobj⟩ := ite_none_left_eq_some.mp hobj
      exact hother hwId' object hne hobj
    · rw [find?_erase] at h₁ h₂
      exact h.injective hwId₁ hwId₂ object₁ object₂ (ite_none_left_eq_some.mp h₁).2
        (ite_none_left_eq_some.mp h₂).2 heq
    · rw [find?_erase] at hobj
      rw [← hkeys]
      exact h.notHeld hwId' object (ite_none_left_eq_some.mp hobj).2
    · rw [← hkeys]
      exact h.nodup
  · next hfail =>
    refine ⟨h.forward, fun hwId' object hobj ↦ ?_, h.injective, fun hwId' object hobj ↦ ?_, ?_⟩
    · by_cases heq : hwId' = hwId
      · subst heq
        obtain ⟨object', hobj', hids⟩ :=
          not_not.mp fun hnot ↦ hfail ((hsafe (by simp [hobj])).mpr hnot)
        obtain rfl := some_inj.mp (hobj.symm.trans hobj')
        exact Or.inl hids
      · exact hother hwId' object heq hobj
    · rw [← hkeys]
      exact h.notHeld hwId' object hobj
    · rw [← hkeys]
      exact h.nodup

/-! ## Runs -/

theorem Consistent.lookup (key : GeofenceKey) {entry : ℕ → Pending}
    (hentry : ∀ hwId, (entry hwId).newKey = none) : (s.lookup key entry).1.Consistent := by
  rw [GeofenceAdapter.lookup]
  split
  · next hwId _ => exact h.send_of_newKeys (by simp [newKeys, hentry hwId])
  · exact h

/-- An entry of the queue that comes back. -/
theorem Consistent.answer {err : LocationError}
    (hqueue : s.queue = entry :: queue) (engine : List ℕ) (hsafe : s.SafeAnswer err hwId entry) :
    (GeofenceAdapter.handle { s with queue := queue, engine := engine } .enabled err hwId
      entry).1.Consistent := by
  have hpop : (∀ hwId, ¬entry.Stops hwId) →
      GeofenceAdapter.Consistent { s with queue := queue, engine := engine } := h.pop hqueue
  have haccepted : Accepted .enabled err ↔ err = .success := by simp [Accepted]
  cases entry with
  | callAdd key options info =>
    refine (hpop (by simp [Pending.Stops])).send (by simp [newKeys, Pending.newKey]) ?_
    simpa [newKeys, Pending.newKey] using h.new_of_pop hqueue rfl
  | callRemove key | callPause key | callResume key | callModify key options => exact (hpop (by simp [Pending.Stops])).lookup key fun _ ↦ rfl
  | add key options info =>
    obtain ⟨hkey, hheld⟩ := h.new_of_pop hqueue rfl
    simp only [handle, haccepted]
    split
    · next hsuccess =>
      exact (hpop (by simp [Pending.Stops])).saveGeofenceItem hkey hheld (hsafe hsuccess) _ _
    · exact hpop (by simp [Pending.Stops])
  | remove hwId' id =>
    simp only [handle]
    split
    · exact (hpop (by simp [Pending.Stops])).removeGeofenceItem hwId'
    · exact hpop (by simp [Pending.Stops])
  | pause hwId' id | resume hwId' id | modify hwId' id options =>
    simp only [handle]
    split
    · exact (hpop (by simp [Pending.Stops])).updateGeofenceItem hwId' fun _ ↦ rfl
    · exact hpop (by simp [Pending.Stops])
  | stopRemove hwId' id => exact h.stopRemove hqueue hsafe
  | restartAdd object =>
    obtain ⟨hkey, hheld⟩ := h.new_of_pop hqueue rfl
    have hbase := hpop (by simp [Pending.Stops])
    simp only [handle]
    split
    · next hsuccess =>
      split
      · have hnone : newKeys [.restartPause hwId object.key.id] = [] := rfl
        refine (hbase.send_of_newKeys hnone).saveGeofenceItem ?_ hheld (hsafe hsuccess) _ _
        simpa [GeofenceAdapter.send, newKeys, Pending.newKey] using hkey
      · exact hbase.saveGeofenceItem hkey hheld (hsafe hsuccess) _ _
    · exact hbase
  | restartPause hwId' id => exact hpop (by simp [Pending.Stops])

end

theorem map_fst_zip_sublist {α β : Type} (l : List α) (l' : List β) :
    ((l.zip l').map Prod.fst).Sublist l := by
  induction l generalizing l' with
  | nil => simp
  | cons a l ih =>
    cases l' with
    | nil => simp
    | cons b l' => exact (ih l').cons_cons a

theorem Consistent.step {s' : GeofenceAdapter} {e : Event} {requests : List Request}
    (h : s.Consistent) (hg : s.Regular e ∧ s.Safe e) (hs : s.step e = some (s', requests)) :
    s'.Consistent := by
  obtain ⟨hregular, hsafe⟩ := hg
  cases e with
  | addGeofences client ids options infos =>
    cases options with
    | none =>
      obtain ⟨rfl, -⟩ := some_pair_inj hs
      exact h
    | some options =>
      cases infos with
      | none =>
        obtain ⟨rfl, -⟩ := some_pair_inj hs
        exact h
      | some infos =>
        obtain ⟨hnodup, hnew⟩ := hregular
        have hkeys : newKeys ((ids.zip (options.zip infos)).map fun e ↦
            .callAdd ⟨client, e.1⟩ e.2.1 e.2.2) =
            ((ids.zip (options.zip infos)).map Prod.fst).map (GeofenceKey.mk client) := by
          rw [newKeys_map_eq_map _ (fun _ ↦ rfl), map_map]
          rfl
        rw [← show _ = s' from congrArg Prod.fst (some_inj.mp hs)]
        refine h.send ?_ fun key hkey ↦ ?_
        · rw [hkeys]
          refine List.Nodup.map (fun _ _ h ↦ (GeofenceKey.mk.inj h).2) ?_
          exact hnodup.sublist (map_fst_zip_sublist ids _)
        · rw [hkeys] at hkey
          obtain ⟨id, hid, rfl⟩ := mem_map.mp hkey
          obtain ⟨e, he, rfl⟩ := mem_map.mp hid
          exact hnew e.1 (of_mem_zip he).1
  | removeGeofences client ids | pauseGeofences client ids | resumeGeofences client ids =>
    rw [← show _ = s' from congrArg Prod.fst (some_inj.mp hs)]
    exact h.send_of_newKeys (newKeys_map_eq_nil ids fun _ ↦ rfl)
  | modifyGeofences client ids options =>
    cases options with
    | none =>
      obtain ⟨rfl, -⟩ := some_pair_inj hs
      exact h
    | some options =>
      rw [← show _ = s' from congrArg Prod.fst (some_inj.mp hs)]
      exact h.send_of_newKeys (newKeys_map_eq_nil _ fun _ ↦ rfl)
  | stopClientSessions client =>
    rw [← show _ = s' from congrArg Prod.fst (some_inj.mp hs)]
    exact h.stopClientSessions client
  | engineReset =>
    obtain ⟨rfl, -⟩ := some_pair_inj hs
    exact ⟨h.forward, h.backward, h.injective, h.notHeld, h.nodup⟩
  | engineUp lock =>
    obtain rfl : lock = .enabled := hregular
    rw [← show _ = s' from congrArg Prod.fst (some_inj.mp hs)]
    exact h.restartGeofences
  | answer lock err hwId =>
    obtain rfl : lock = .enabled := hregular
    rw [GeofenceAdapter.step] at hs
    split at hs
    · cases hs
    · next entry queue hqueue =>
      obtain ⟨-, heq⟩ := ite_none_left_eq_some.mp hs
      rw [← show _ = s' from congrArg Prod.fst (some_inj.mp heq)]
      exact h.answer hqueue _ (hsafe entry (by simp [hqueue]))

/-! ## Nothing is on its way -/

/-- The id a client is told for a hardware id. -/
theorem breachId_eq_idOf (h : ∀ key hwId, s.mGeofenceIds.find? key = some hwId ↔
      ∃ object, s.mGeofences.find? hwId = some object ∧ object.key = key)
    (client : LocationAPI) (hwId : ℕ) : s.breachId client hwId = s.idOf client hwId := by
  have hfound : ∀ e, s.mGeofenceIds.entries.find? (fun e ↦ e.1.client = client ∧ e.2 = hwId) =
      some e → e.1.client = client ∧ s.getGeofenceKeyFromHwId hwId = some e.1 := by
    intro e he
    obtain ⟨hclient, hhwId⟩ : e.1.client = client ∧ e.2 = hwId := by simpa using find?_some he
    have hids : s.mGeofenceIds.find? e.1 = some hwId := by
      rw [find?_eq_some_iff, ← hhwId]
      exact mem_of_find?_eq_some he
    obtain ⟨object, hobj, hkey⟩ := (h e.1 hwId).mp hids
    exact ⟨hclient, by rw [getGeofenceKeyFromHwId, hobj, map_some, hkey]⟩
  rw [idOf, breachId]
  cases he : s.mGeofenceIds.entries.find? fun e ↦ e.1.client = client ∧ e.2 = hwId with
  | none =>
    split
    · next key hkey =>
      -- the entry of the key would have been found
      obtain ⟨object, hobj, rfl⟩ := Option.map_eq_some_iff.mp hkey
      have hids := find?_eq_some_iff.mp ((h object.key hwId).mpr ⟨object, hobj, rfl⟩)
      have hne := List.find?_eq_none.mp he _ hids
      rw [if_neg (by simpa using hne)]
      rfl
    · rfl
  | some e =>
    obtain ⟨hclient, hkey⟩ := hfound e he
    rw [hkey]
    simp only [hclient, if_true, map_some]

theorem Inverse.of_find?_iff (h : ∀ key hwId, s.mGeofenceIds.find? key = some hwId ↔
    ∃ object, s.mGeofences.find? hwId = some object ∧ object.key = key) : s.Inverse where
  find?_iff := h
  breach := by
    intro mClientData hwIds client clientIds
    have hids : ∀ client, s.breachId client = s.idOf client := fun client ↦
      funext (breachId_eq_idOf h client)
    simp only [geofenceBreach, mem_filterMap, hids]
    constructor
    · rintro ⟨⟨client', cb⟩, hmem, heq⟩
      obtain ⟨⟨hne, rfl⟩, rfl, rfl⟩ := ite_pair_inj heq
      exact ⟨find?_eq_some_iff.mpr hmem, hne, rfl⟩
    · rintro ⟨hfind, hne, rfl⟩
      refine ⟨(client, true), find?_eq_some_iff.mp hfind, ?_⟩
      exact if_pos ⟨hne, rfl⟩

theorem Consistent.inverse (h : s.Consistent) (hqueue : s.queue = []) : s.Inverse := by
  refine .of_find?_iff fun key hwId ↦ ⟨h.forward key hwId, ?_⟩
  rintro ⟨object, hobj, rfl⟩
  rcases h.backward hwId object hobj with hids | ⟨entry, hmem, -⟩
  · exact hids
  · rw [hqueue] at hmem
    cases hmem

/-- In every run with such answers, whenever nothing is on its way. -/
theorem mapsInverse_of_run {hist : List (Item Event Request)}
    (h : Run GeofenceAdapter.step (fun s e ↦ s.Regular e ∧ s.Safe e) initial hist s)
    (hqueue : s.queue = []) : s.Inverse := by
  have hconsistent : s.Consistent :=
    h.invariant (I := fun _ s ↦ s.Consistent) consistent_initial fun h hg hs ↦ h.step hg hs
  exact hconsistent.inverse hqueue

/-- Two clients with a geofence each; one of them is stopped, and the engine starts anew. -/
theorem mapsInverse_of_run_two_clients :
    ∃ hist s, Run GeofenceAdapter.step (fun s e ↦ s.Regular e ∧ s.Safe e) initial hist s ∧
      (s.queue = [] ∧ s.mGeofenceIds.find? ⟨2, 11⟩ = some 5 ∧ s.mGeofenceIds.entries.length = 1) ∧
      s.Inverse := by
  obtain ⟨hist, s, hrun, hend⟩ := Run.exists_of_runEvents GeofenceAdapter.step
    (fun s e ↦ s.Regular e ∧ s.Safe e) initial
    [.addGeofences 1 [10] (some [⟨1, 2, 3⟩]) (some [⟨4, 5, 6⟩]),
      .addGeofences 2 [11] (some [⟨1, 2, 3⟩]) (some [⟨7, 8, 9⟩]),
      .answer .enabled .success 0, .answer .enabled .success 0, .answer .enabled .success 5,
      .answer .enabled .success 6, .stopClientSessions 1, .answer .enabled .success 0,
      .pauseGeofences 2 [11], .answer .enabled .success 0, .answer .enabled .success 0,
      .engineReset, .engineUp .enabled, .answer .enabled .success 5, .answer .enabled .success 0]
    (fun _ s ↦ s.queue = [] ∧ s.mGeofenceIds.find? ⟨2, 11⟩ = some 5 ∧
      s.mGeofenceIds.entries.length = 1) (by decide +kernel)
  exact ⟨hist, s, hrun, hend, mapsInverse_of_run hrun hend.1⟩

/-- The engine refuses to remove the geofence of a client that stops: `mGeofences` keeps it. -/
theorem not_mapsInverse : ¬∀ hist s, Run GeofenceAdapter.step Regular initial hist s →
    s.queue = [] → s.Inverse := by
  intro hinverse
  obtain ⟨hist, s, hrun, hqueue, hids, hkey⟩ :=
    Run.exists_of_runEvents GeofenceAdapter.step Regular initial
    [.addGeofences 1 [10] (some [⟨1, 2, 3⟩]) (some [⟨4, 5, 6⟩]), .answer .enabled .success 0,
      .answer .enabled .success 5, .stopClientSessions 1, .answer .enabled .generalFailure 0]
    (fun _ s ↦ s.queue = [] ∧ s.mGeofenceIds.find? ⟨1, 10⟩ = none ∧
      (s.mGeofences.find? 5).map (·.key) = some ⟨1, 10⟩) (by decide +kernel)
  obtain ⟨object, hobj, hkey⟩ := Option.map_eq_some_iff.mp hkey
  have hids' := ((hinverse hist s hrun hqueue).find?_iff ⟨1, 10⟩ 5).mpr ⟨object, hobj, hkey⟩
  rw [hids] at hids'
  cases hids'

end GeofenceAdapter

end MataDevice.Geofence
