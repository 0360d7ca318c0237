import MataDevice.Geofence.Adapter

/-!
# Geofences over restarts of the engine

When the engine is up again the adapter adds all its geofences anew. They come back as they were,
save for one thing: a geofence that was paused is paused in the engine, but saved as one that is
not. So the engine is told to pause the right geofences after the first restart, and none of them
after the second.
-/

namespace MataDevice.Geofence

open List
open MataDevice.Tracking (LocationAPI LocationError EngineLockState)

/-- The geofence, not paused. -/
def GeofenceObject.unpaused (object : GeofenceObject) : GeofenceObject :=
  { object with paused := false }

/-- Saving a geofence with the arguments of the add request leaves it as it was, not paused. -/
theorem GeofenceObject.make_eq_unpaused (object : GeofenceObject) :
    GeofenceObject.make object.key object.options object.info = object.unpaused := rfl

theorem GeofenceObject.unpaused_of_not_paused {object : GeofenceObject}
    (h : object.paused = false) : object.unpaused = object := by
  cases object
  simp only at h
  rw [GeofenceObject.unpaused, h]

/-- The geofence that is to be paused. -/
def Request.pauseOf : Request → Option (ℕ × ℕ)
  | .pauseGeofence hwId id => some (hwId, id)
  | _ => none

/-- What the engine was told to pause since it was up last. -/
def pausesSince (hist : List (Item Event Request)) : List (ℕ × ℕ) :=
  hist.foldl (fun pauses x ↦ match x with
    | .event (.engineUp _) => []
    | .event _ => pauses
    | .out request => pauses ++ request.pauseOf.toList) []

namespace GeofenceAdapter

/-- The geofences the adapter holds. -/
def held (s : GeofenceAdapter) : Set GeofenceObject := { object | object ∈ s.mGeofences.values }

/-- The engine comes up when nothing is on its way, and gives out fresh hardware ids for the
geofences that are added again. -/
def Restarts (s : GeofenceAdapter) : Event → Prop
  | .engineUp lock => lock = .enabled ∧ s.queue = []
  | .engineReset => True
  | .answer _ err hwId =>
    ∀ entry ∈ s.queue.head?, entry.Adds → err = .success ∧ s.mGeofences.find? hwId = none
  | _ => False

instance (s : GeofenceAdapter) : ∀ e, Decidable (s.Restarts e)
  | .engineUp lock => inferInstanceAs (Decidable (_ ∧ _))
  | .engineReset => inferInstanceAs (Decidable True)
  | .answer _ err hwId => inferInstanceAs (Decidable (∀ entry ∈ s.queue.head?, _))
  | .addGeofences .. | .removeGeofences .. | .pauseGeofences .. | .resumeGeofences .. |
    .modifyGeofences .. | .stopClientSessions _ => inferInstanceAs (Decidable False)

/-- The engine was told to pause the geofences that were paused, and no others. -/
structure Told (s₀ : GeofenceAdapter) (hist : List (Item Event Request)) (s : GeofenceAdapter) :
    Prop where
  paused : ∀ object ∈ s₀.held, object.paused = true → ∃ hwId object',
    s.mGeofences.find? hwId = some object' ∧ object'.key = object.key ∧
      (hwId, object.key.id) ∈ pausesSince hist
  only : ∀ hwId id, (hwId, id) ∈ pausesSince hist → ∃ object ∈ s₀.held, object.paused = true ∧
    object.key.id = id ∧ ∃ object', s.mGeofences.find? hwId = some object' ∧
      object'.key = object.key

/-- The geofences have survived. -/
structure Survived (s₀ : GeofenceAdapter) (hist : List (Item Event Request)) (s : GeofenceAdapter) :
    Prop where
  held_eq : s.held = s₀.held
  told : .engineUp .enabled ∈ eventsOf hist → Told s₀ hist s

/-! ## One restart -/

/-- While the geofences of `objects` are added again. -/
structure Restarting (objects : Set GeofenceObject) (pauses : List (ℕ × ℕ)) (s : GeofenceAdapter) :
    Prop where
  queue : ∀ entry ∈ s.queue, (∃ object ∈ objects, entry = .restartAdd object) ∨
    ∃ hwId id, entry = .restartPause hwId id
  saved : ∀ hwId object, s.mGeofences.find? hwId = some object →
    ∃ object' ∈ objects, object = object'.unpaused
  all : ∀ object ∈ objects, .restartAdd object ∈ s.queue ∨
    ∃ hwId, s.mGeofences.find? hwId = some object.unpaused ∧
      (object.paused = true → (hwId, object.key.id) ∈ pauses)
  told : ∀ hwId id, (hwId, id) ∈ pauses → ∃ object ∈ objects, object.paused = true ∧
    object.key.id = id ∧ s.mGeofences.find? hwId = some object.unpaused

variable {s s' s₀ : GeofenceAdapter} {hist : List (Item Event Request)} {e : Event}
  {requests : List Request} {objects : Set GeofenceObject} {pauses : List (ℕ × ℕ)}
  {queue : List Pending} {hwId : ℕ} {object : GeofenceObject}

theorem mem_held : object ∈ s.held ↔ ∃ hwId, s.mGeofences.find? hwId = some object := by
  constructor
  · intro h
    obtain ⟨⟨hwId, object'⟩, hmem, rfl⟩ := mem_map.mp h
    exact ⟨hwId, OrderedMap.find?_eq_some_iff.mpr hmem⟩
  · rintro ⟨hwId, h⟩
    exact OrderedMap.mem_values_of_find? h

/-- When everything has come back, the geofences are there, not paused. -/
theorem Restarting.held_eq (h : Restarting objects pauses s) (hqueue : s.queue = []) :
    s.held = GeofenceObject.unpaused '' objects := by
  ext object
  rw [mem_held]
  constructor
  · rintro ⟨hwId, hobj⟩
    obtain ⟨object', hmem, rfl⟩ := h.saved hwId object hobj
    exact ⟨object', hmem, rfl⟩
  · rintro ⟨object', hmem, rfl⟩
    rcases h.all object' hmem with hin | ⟨hwId, hobj, -⟩
    · rw [hqueue] at hin
      cases hin
    · exact ⟨hwId, hobj⟩

/-- The geofences are taken out of the maps and sent to the engine. -/
theorem Restarting.start (hqueue : s.queue = []) : Restarting s.held [] s.restartGeofences.1 := by
  rw [restartGeofences]
  split
  · next hempty =>
    have hnone : ∀ object, object ∉ s.held := by
      intro object hmem
      rw [held, Set.mem_ofPred_eq, OrderedMap.isEmpty_iff.mp hempty] at hmem
      cases hmem
    refine ⟨by simp [hqueue], fun hwId object hobj ↦ ?_, fun object hmem ↦ ?_, by simp⟩
    · exact absurd (mem_held.mpr ⟨hwId, hobj⟩) (hnone object)
    · exact absurd hmem (hnone object)
  · refine ⟨fun entry hmem ↦ Or.inl ?_, by simp [send], fun object hmem ↦ Or.inl ?_, by simp⟩
    · rw [send, hqueue, nil_append] at hmem
      obtain ⟨object, hobj, rfl⟩ := mem_map.mp hmem
      exact ⟨object, hobj, rfl⟩
    · rw [send, hqueue, nil_append]
      exact mem_map_of_mem hmem

/-- The engine has added a geofence again. -/
theorem Restarting.restartAdd (h : Restarting objects pauses s)
    (hqueue : s.queue = .restartAdd object :: queue) (hfresh : s.mGeofences.find? hwId = none)
    (hkeep : s'.mGeofences = s.mGeofences.insert hwId object.unpaused)
    (hqueue' : s'.queue = queue ++
      if object.paused then [.restartPause hwId object.key.id] else []) :
    Restarting objects
      (pauses ++ if object.paused then [(hwId, object.key.id)] else []) s' := by
  obtain ⟨object', hobj, heq⟩ | ⟨hwId', id, heq⟩ :=
    h.queue (.restartAdd object) (by rw [hqueue]; exact mem_cons_self)
  · obtain rfl := Pending.restartAdd.inj heq
    -- the geofences that are there stay under their hardware ids
    have hold : ∀ hwId' object', s.mGeofences.find? hwId' = some object' →
        s'.mGeofences.find? hwId' = some object' := by
      intro hwId' object' hobj'
      rw [hkeep, OrderedMap.find?_insert, if_neg, hobj']
      rintro rfl
      rw [hfresh] at hobj'
      cases hobj'
    have hnew : s'.mGeofences.find? hwId = some object.unpaused := by
      rw [hkeep, OrderedMap.find?_insert, if_pos rfl]
    refine ⟨fun entry hmem ↦ ?_, fun hwId' object' hobj' ↦ ?_, fun object' hmem ↦ ?_,
      fun hwId' id hmem ↦ ?_⟩
    · rw [hqueue'] at hmem
      rcases mem_append.mp hmem with hmem | hmem
      · exact h.queue entry (by rw [hqueue]; exact mem_cons_of_mem _ hmem)
      · split at hmem
        · exact Or.inr ⟨_, _, mem_singleton.mp hmem⟩
        · cases hmem
    · rw [hkeep, OrderedMap.find?_insert] at hobj'
      split at hobj'
      · exact ⟨object, hobj, (Option.some_inj.mp hobj').symm⟩
      · exact h.saved hwId' object' hobj'
    · rcases h.all object' hmem with hin | ⟨hwId', hobj', hpaused⟩
      · rw [hqueue] at hin
        rcases mem_cons.mp hin with heq | hin
        · obtain rfl := Pending.restartAdd.inj heq
          exact Or.inr ⟨hwId, hnew, fun hp ↦ mem_append_right _ (by simp [hp])⟩
        · exact Or.inl (by rw [hqueue']; exact mem_append_left _ hin)
      · exact Or.inr ⟨hwId', hold hwId' _ hobj', fun hp ↦ mem_append_left _ (hpaused hp)⟩
    · rcases mem_append.mp hmem with hmem | hmem
      · obtain ⟨object', hobj', hp, hid, hfind⟩ := h.told hwId' id hmem
        exact ⟨object', hobj', hp, hid, hold hwId' _ hfind⟩
      · split at hmem
        · next hp =>
          obtain ⟨rfl, rfl⟩ := Prod.mk.inj (mem_singleton.mp hmem)
          exact ⟨object, hobj, hp, rfl, hnew⟩
        · cases hmem
  · cases heq

/-- The answer to a pause changes nothing. -/
theorem Restarting.restartPause (h : Restarting objects pauses s) {id : ℕ} {engine : List ℕ}
    (hqueue : s.queue = .restartPause hwId id :: queue) :
    Restarting objects pauses { s with queue := queue, engine := engine } := by
  refine ⟨fun entry hmem ↦ ?_, h.saved, fun object hmem ↦ ?_, h.told⟩
  · exact h.queue entry (by rw [hqueue]; exact mem_cons_of_mem _ hmem)
  · rcases h.all object hmem with hin | hsaved
    · rw [hqueue] at hin
      rcases mem_cons.mp hin with heq | hin
      · cases heq
      · exact Or.inl hin
    · exact Or.inr hsaved

/-! ## Runs -/

theorem foldl_outs (pauses : List (ℕ × ℕ)) (requests : List Request) :
    (requests.map .out).foldl (fun pauses (x : Item Event Request) ↦ match x with
      | .event (.engineUp _) => []
      | .event _ => pauses
      | .out request => pauses ++ request.pauseOf.toList) pauses =
      pauses ++ requests.filterMap Request.pauseOf := by
  induction requests generalizing pauses with
  | nil => simp
  | cons request requests ih =>
    rw [map_cons, foldl_cons, ih, append_assoc]
    cases h : request.pauseOf with
    | none => rw [filterMap_cons_none h, Option.toList_none, nil_append]
    | some p => rw [filterMap_cons_some h, Option.toList_some, singleton_append]

theorem pausesSince_engineUp (lock : EngineLockState) :
    pausesSince (hist ++ entry (.engineUp lock) requests) =
      requests.filterMap Request.pauseOf := by
  rw [pausesSince, foldl_append, MataDevice.entry, foldl_cons, foldl_outs,
    nil_append]

theorem pausesSince_append_entry (he : ∀ lock, e ≠ .engineUp lock) :
    pausesSince (hist ++ entry e requests) =
      pausesSince hist ++ requests.filterMap Request.pauseOf := by
  rw [pausesSince, foldl_append, MataDevice.entry, foldl_cons, foldl_outs]
  cases e with
  | engineUp lock => exact absurd rfl (he lock)
  | addGeofences client ids options infos => rfl
  | removeGeofences client ids => rfl
  | pauseGeofences client ids => rfl
  | resumeGeofences client ids => rfl
  | modifyGeofences client ids options => rfl
  | stopClientSessions client => rfl
  | engineReset => rfl
  | answer lock err hwId => rfl

/-- The adapter before the first restart, and after some. -/
inductive Phase (s₀ : GeofenceAdapter) (hist : List (Item Event Request)) (s : GeofenceAdapter) :
    Prop
  | before (hups : (eventsOf hist).count (.engineUp .enabled) = 0) (hqueue : s.queue = [])
    (hkeep : s.mGeofences = s₀.mGeofences)
  | after (objects : Set GeofenceObject) (hups : 0 < (eventsOf hist).count (.engineUp .enabled))
    (hobjects : objects = s₀.held ∨
      (eventsOf hist).count (.engineUp .enabled) ≠ 1 ∧
        objects = GeofenceObject.unpaused '' s₀.held)
    (h : Restarting objects (pausesSince hist) s)

theorem image_unpaused_unpaused (objects : Set GeofenceObject) :
    GeofenceObject.unpaused '' (GeofenceObject.unpaused '' objects) =
      GeofenceObject.unpaused '' objects := by
  rw [Set.image_image]
  rfl

theorem restartGeofences_pauses (s : GeofenceAdapter) :
    s.restartGeofences.2.filterMap Request.pauseOf = [] := by
  rw [restartGeofences]
  split
  · rfl
  · rw [send, filterMap_map, filterMap_filterMap]
    exact filterMap_eq_nil_iff.mpr fun _ _ ↦ rfl

theorem Phase.engineUp (h : Phase s₀ hist s) (hqueue : s.queue = []) :
    Phase s₀ (hist ++ entry (.engineUp .enabled) s.restartGeofences.2) s.restartGeofences.1 := by
  have hups : (eventsOf (hist ++ entry (.engineUp .enabled) s.restartGeofences.2)).count
      (.engineUp .enabled) = (eventsOf hist).count (.engineUp .enabled) + 1 := by
    rw [eventsOf_append_entry, count_append, count_singleton_self]
  have hstart : Restarting s.held
      (pausesSince (hist ++ entry (.engineUp .enabled) s.restartGeofences.2))
      s.restartGeofences.1 := by
    rw [pausesSince_engineUp, restartGeofences_pauses]
    exact Restarting.start hqueue
  cases h with
  | before _ _ hkeep =>
    refine .after s.held (by omega) (Or.inl ?_) hstart
    rw [held, held, hkeep]
  | after objects hpos hobjects h =>
    refine .after s.held (by omega) (Or.inr ⟨by omega, ?_⟩) hstart
    rw [h.held_eq hqueue]
    rcases hobjects with rfl | ⟨-, rfl⟩
    · rfl
    · rw [image_unpaused_unpaused]

/-- What the callback of an addition does. -/
theorem handle_restartAdd (lock : EngineLockState) :
    s.handle lock .success hwId (.restartAdd object) =
      ({ s with
          mGeofences := s.mGeofences.insert hwId object.unpaused
          mGeofenceIds := s.mGeofenceIds.insert object.key hwId
          queue := s.queue ++ if object.paused then [.restartPause hwId object.key.id] else [] },
        if object.paused then [.pauseGeofence hwId object.key.id] else []) := by
  cases hp : object.paused with
  | true => simp [handle, hp, send, saveGeofenceItem, GeofenceObject.make_eq_unpaused,
      Pending.request]
  | false => simp [handle, hp, saveGeofenceItem, GeofenceObject.make_eq_unpaused]

theorem Phase.answer {lock : EngineLockState} {err : LocationError} (h : Phase s₀ hist s)
    (hg : s.Restarts (.answer lock err hwId))
    (hs : s.step (.answer lock err hwId) = some (s', requests)) :
    Phase s₀ (hist ++ entry (.answer lock err hwId) requests) s' := by
  have hups : (eventsOf (hist ++ entry (.answer lock err hwId) requests)).count
      (.engineUp .enabled) = (eventsOf hist).count (.engineUp .enabled) := by
    rw [eventsOf_append_entry, count_append, count_singleton]
    simp
  have hpauses : pausesSince (hist ++ entry (.answer lock err hwId) requests) =
      pausesSince hist ++ requests.filterMap Request.pauseOf :=
    pausesSince_append_entry (by simp)
  rw [step] at hs
  split at hs
  · cases hs
  · next pending queue hqueue =>
    obtain ⟨-, heq⟩ := Option.ite_none_left_eq_some.mp hs
    have heq := Option.some_inj.mp heq
    cases h with
    | before _ hnil _ =>
      rw [hnil] at hqueue
      cases hqueue
    | after objects hpos hobjects h =>
      refine .after objects (by omega) (by rwa [hups]) ?_
      rw [hpauses]
      rcases h.queue pending (by rw [hqueue]; exact mem_cons_self) with
        ⟨object, -, rfl⟩ | ⟨hwId', id, rfl⟩
      · obtain ⟨rfl, hfresh⟩ := hg (.restartAdd object) (by simp [hqueue]) trivial
        rw [handle_restartAdd] at heq
        obtain ⟨rfl, rfl⟩ := Prod.mk.inj heq
        rw [apply_ite (List.filterMap Request.pauseOf)]
        exact h.restartAdd hqueue hfresh rfl rfl
      · obtain ⟨rfl, rfl⟩ := Prod.mk.inj heq
        rw [filterMap_nil, List.append_nil]
        exact h.restartPause hqueue

theorem Phase.step (h : Phase s₀ hist s) (hg : s.Restarts e)
    (hs : s.step e = some (s', requests)) : Phase s₀ (hist ++ entry e requests) s' := by
  cases e with
  | engineUp lock =>
    obtain ⟨rfl, hqueue⟩ := hg
    obtain ⟨rfl, rfl⟩ := some_pair_inj hs
    exact h.engineUp hqueue
  | engineReset =>
    obtain ⟨rfl, rfl⟩ := some_pair_inj hs
    have hups : (eventsOf (hist ++ entry .engineReset [])).count (.engineUp .enabled) =
        (eventsOf hist).count (.engineUp .enabled) := by
      rw [eventsOf_append_entry, count_append, count_singleton]
      simp
    cases h with
    | before hzero hqueue hkeep => exact .before (by rw [hups, hzero]) hqueue hkeep
    | after objects hpos hobjects h =>
      refine .after objects (by omega) (by rwa [hups]) ?_
      rw [pausesSince_append_entry (by simp), filterMap_nil, List.append_nil]
      exact ⟨h.queue, h.saved, h.all, h.told⟩
  | answer lock err hwId => exact h.answer hg hs
  | addGeofences client ids options infos => cases hg
  | removeGeofences client ids => cases hg
  | pauseGeofences client ids => cases hg
  | resumeGeofences client ids => cases hg
  | modifyGeofences client ids options => cases hg
  | stopClientSessions client => cases hg

theorem phase_of_run (hqueue₀ : s₀.queue = []) (h : Run GeofenceAdapter.step Restarts s₀ hist s) :
    Phase s₀ hist s :=
  h.invariant (I := fun hist s ↦ Phase s₀ hist s) (.before rfl hqueue₀ rfl)
    fun h hg hs ↦ h.step hg hs

theorem image_unpaused_eq (h : ∀ object ∈ objects, object.paused = false) :
    GeofenceObject.unpaused '' objects = objects := by
  ext object
  constructor
  · rintro ⟨object', hmem, rfl⟩
    rwa [GeofenceObject.unpaused_of_not_paused (h object' hmem)]
  · intro hmem
    exact ⟨object, hmem, GeofenceObject.unpaused_of_not_paused (h object hmem)⟩

/-- After the first restart the engine was told to pause the right geofences. -/
theorem told_of_first_restart (hqueue₀ : s₀.queue = [])
    (h : Run GeofenceAdapter.step Restarts s₀ hist s) (hqueue : s.queue = [])
    (hone : (eventsOf hist).count (.engineUp .enabled) = 1) : Told s₀ hist s := by
  cases phase_of_run hqueue₀ h with
  | before hzero _ _ =>
    rw [hone] at hzero
    cases hzero
  | after objects hpos hobjects h =>
    obtain rfl : objects = s₀.held := by
      rcases hobjects with hobjects | ⟨hne, -⟩
      · exact hobjects
      · exact absurd hone hne
    refine ⟨fun object hmem hpaused ↦ ?_, fun hwId id hmem ↦ ?_⟩
    · rcases h.all object hmem with hin | ⟨hwId, hfind, htold⟩
      · rw [hqueue] at hin
        cases hin
      · exact ⟨hwId, _, hfind, rfl, htold hpaused⟩
    · obtain ⟨object, hobj, hpaused, hid, hfind⟩ := h.told hwId id hmem
      exact ⟨object, hobj, hpaused, hid, _, hfind, rfl⟩

/-- A geofence is paused, and the engine restarts once. -/
theorem told_of_first_restart_paused :
    ∃ s₀ hist s, (∃ object ∈ s₀.held, object.paused = true) ∧
      Run GeofenceAdapter.step Restarts s₀ hist s ∧ Told s₀ hist s := by
  obtain ⟨hist₀, s₀, -, hqueue₀, hmem, hrest⟩ := Run.exists_of_runEvents GeofenceAdapter.step
    (fun _ _ ↦ True) initial
    [.addGeofences 1 [10] (some [⟨1, 2, 3⟩]) (some [⟨4, 5, 6⟩]), .answer .enabled .success 0,
      .answer .enabled .success 5, .pauseGeofences 1 [10], .answer .enabled .success 0,
      .answer .enabled .success 0]
    (fun _ s₀ ↦ s₀.queue = [] ∧ (∃ object ∈ s₀.mGeofences.values, object.paused = true) ∧
      (runEvents GeofenceAdapter.step Restarts [] s₀ [.engineReset, .engineUp .enabled,
        .answer .enabled .success 7, .answer .enabled .success 0]).any
        (fun r ↦ decide (r.2.queue = [] ∧
          (eventsOf r.1).count (.engineUp .enabled) = 1)) = true) (by decide +kernel)
  obtain ⟨hist, s, hrun, hqueue, hone⟩ := Run.exists_of_runEvents GeofenceAdapter.step Restarts s₀ _
    (fun hist s ↦ s.queue = [] ∧ (eventsOf hist).count (.engineUp .enabled) = 1) hrest
  exact ⟨s₀, hist, s, hmem, hrun, told_of_first_restart hqueue₀ hrun hqueue hone⟩

/-- The geofences survive restarts exactly if none of them is paused. -/
theorem survived_iff (hqueue₀ : s₀.queue = []) (h : Run GeofenceAdapter.step Restarts s₀ hist s)
    (hqueue : s.queue = []) : Survived s₀ hist s ↔
      .engineUp .enabled ∉ eventsOf hist ∨ ∀ object ∈ s₀.held, object.paused = false := by
  cases phase_of_run hqueue₀ h with
  | before hzero _ hkeep =>
    have hnot := count_eq_zero.mp hzero
    exact ⟨fun _ ↦ Or.inl hnot, fun _ ↦ ⟨by rw [held, held, hkeep], fun hup ↦ absurd hup hnot⟩⟩
  | after objects hpos hobjects h =>
    have hup := count_pos_iff.mp hpos
    have hheld : s.held = GeofenceObject.unpaused '' s₀.held := by
      rw [h.held_eq hqueue]
      rcases hobjects with rfl | ⟨-, rfl⟩
      · rfl
      · rw [image_unpaused_unpaused]
    constructor
    · intro hsurvived
      refine Or.inr fun object hmem ↦ ?_
      rw [← hsurvived.held_eq, hheld] at hmem
      obtain ⟨object', -, rfl⟩ := hmem
      rfl
    · intro hor
      have hnone := hor.resolve_left (not_not.mpr hup)
      refine ⟨by rw [hheld, image_unpaused_eq hnone], fun _ ↦ ⟨fun object hmem hpaused ↦ ?_,
        fun hwId id hmem ↦ ?_⟩⟩
      · rw [hnone object hmem] at hpaused
        cases hpaused
      · -- none of the geofences that were added again was paused
        have hobjects' : objects = s₀.held := by
          rcases hobjects with hobjects | ⟨-, hobjects⟩
          · exact hobjects
          · rw [hobjects, image_unpaused_eq hnone]
        obtain ⟨object, hobj, hpaused, -⟩ := h.told hwId id hmem
        rw [hnone object (hobjects' ▸ hobj)] at hpaused
        cases hpaused

/-- A client adds two geofences and removes one of them, and the engine restarts twice. -/
theorem survived_of_two_restarts :
    ∃ s₀ hist s, Run GeofenceAdapter.step Restarts s₀ hist s ∧
      (s₀.mGeofences.values.length = 1 ∧
        (eventsOf hist).count (.engineUp .enabled) = 2) ∧ Survived s₀ hist s := by
  obtain ⟨hist₀, s₀, -, hqueue₀, hlen, hnone, hrest⟩ := Run.exists_of_runEvents GeofenceAdapter.step
    (fun _ _ ↦ True) initial
    [.addGeofences 1 [10, 11] (some [⟨1, 2, 3⟩, ⟨1, 2, 3⟩]) (some [⟨4, 5, 6⟩, ⟨7, 8, 9⟩]),
      .answer .enabled .success 0, .answer .enabled .success 0, .answer .enabled .success 5,
      .answer .enabled .success 6, .removeGeofences 1 [11], .answer .enabled .success 0,
      .answer .enabled .success 0]
    (fun _ s₀ ↦ s₀.queue = [] ∧ s₀.mGeofences.values.length = 1 ∧
      (∀ object ∈ s₀.mGeofences.values, object.paused = false) ∧
      (runEvents GeofenceAdapter.step Restarts [] s₀ [.engineReset, .engineUp .enabled,
        .answer .enabled .success 7, .engineReset, .engineUp .enabled,
        .answer .enabled .success 5]).any
        (fun r ↦ decide (r.2.queue = [] ∧
          (eventsOf r.1).count (.engineUp .enabled) = 2)) = true) (by decide +kernel)
  obtain ⟨hist, s, hrun, hqueue, htwo⟩ := Run.exists_of_runEvents GeofenceAdapter.step Restarts s₀ _
    (fun hist s ↦ s.queue = [] ∧ (eventsOf hist).count (.engineUp .enabled) = 2) hrest
  exact ⟨s₀, hist, s, hrun, ⟨hlen, htwo⟩, (survived_iff hqueue₀ hrun hqueue).mpr (Or.inr hnone)⟩

/-- A paused geofence is not paused any more after a restart. -/
theorem not_survived : ¬∀ hist₀ s₀ hist s,
    Run GeofenceAdapter.step (fun _ _ ↦ True) initial hist₀ s₀ → s₀.queue = [] →
    Run GeofenceAdapter.step Restarts s₀ hist s → s.queue = [] → Survived s₀ hist s := by
  intro hsurvived
  obtain ⟨hist₀, s₀, hrun₀, hqueue₀, hmem, hrest⟩ := Run.exists_of_runEvents GeofenceAdapter.step
    (fun _ _ ↦ True) initial
    [.addGeofences 1 [10] (some [⟨1, 2, 3⟩]) (some [⟨4, 5, 6⟩]), .answer .enabled .success 0,
      .answer .enabled .success 5, .pauseGeofences 1 [10], .answer .enabled .success 0,
      .answer .enabled .success 0]
    (fun _ s₀ ↦ s₀.queue = [] ∧
      (⟨⟨1, 10⟩, 1, 2, 3, 4, 5, 6, true⟩ : GeofenceObject) ∈ s₀.mGeofences.values ∧
      (runEvents GeofenceAdapter.step Restarts [] s₀ [.engineReset, .engineUp .enabled,
        .answer .enabled .success 7, .answer .enabled .success 0]).any
        (fun r ↦ decide (r.2.queue = [] ∧
          (⟨⟨1, 10⟩, 1, 2, 3, 4, 5, 6, true⟩ : GeofenceObject) ∉ r.2.mGeofences.values)) = true)
    (by decide +kernel)
  obtain ⟨hist, s, hrun, hqueue, hnot⟩ := Run.exists_of_runEvents _ _ s₀ _
    (fun _ s ↦ s.queue = [] ∧
      (⟨⟨1, 10⟩, 1, 2, 3, 4, 5, 6, true⟩ : GeofenceObject) ∉ s.mGeofences.values) hrest
  have hheld := (hsurvived hist₀ s₀ hist s hrun₀ hqueue₀ hrun hqueue).held_eq
  exact hnot (show _ ∈ s.held from hheld ▸ hmem)

end GeofenceAdapter

end MataDevice.Geofence
