import MataDevice.Batching.System

/-!
# The tables of the batching adapter

The adapter keeps its sessions in two tables: `mBatchingSessions` with the options of each session,
and `mTripSessions` with the status of each outdoor trip. It registers for the event that a batch is
full as long as a session wants its reports automatically. The two tables and the registration have
to *agree*.

For the argument they are seen as `Tables`: the mode of each session, which ids are trips, and the
bit of the event mask. While a stop waits for its answer the bit may be set although no session
needs it any more; the answer clears it.

The code loses the agreement where it enters a trip into one table only (a trip that joins others),
takes it out of one only (a trip that is stopped or completed), restores a session whose stop failed
with other options than its own, and where it counts a trip in both tables to find out whether it is
the last session that needs the event. The law holds for the runs that do not come there.
-/

namespace MataDevice.Batching

open List
open MataDevice.Tracking (LocationAPI LocationError EngineLockState LocationSessionKey Owned
  generateSessionId)
open Option (some_inj isSome_iff_exists map_eq_some_iff)
open OrderedMap (find?_eq_some_iff find?_insert find?_erase)

/-! ## Tables that agree -/

/-- The mode of each session, the ids that are trips, and the bit of the event mask. -/
structure Tables where
  mode : LocationSessionKey → Option BatchingMode
  trip : ℕ → Prop
  bit : Prop

namespace Tables

/-- Some session wants its reports automatically. -/
def Auto (t : Tables) : Prop := ∃ key m, t.mode key = some m ∧ m ≠ .noAutoReport

/-- The trips are those of both tables, an id belongs to one client, and a session that wants its
reports automatically gets them. -/
structure Agree (t : Tables) : Prop where
  trips : ∀ id, t.trip id ↔ ∃ key, t.mode key = some .trip ∧ key.id = id
  unique : ∀ key key', t.mode key ≠ none → t.mode key' ≠ none → key.id = key'.id → key = key'
  registered : t.Auto → t.bit

/-- No session has the id. -/
def Free (t : Tables) (id : ℕ) : Prop := ∀ key, t.mode key ≠ none → key.id ≠ id

/-- No session of another client has the id. -/
def OwnedBy (t : Tables) (key : LocationSessionKey) : Prop :=
  ∀ key', t.mode key' ≠ none → key'.id = key.id → key' = key

/-- The bit is not set for nothing: a session needs it, or a stop will look after it. -/
structure Supported (t : Tables) (stopping : Prop) : Prop extends t.Agree where
  needed : t.bit → t.Auto ∨ stopping

/-- What the start of a session of mode `m` makes of the tables. -/
structure Starts (t t' : Tables) (m : BatchingMode) : Prop where
  agree : t'.Agree
  auto : t.Auto ∨ m = .routine ∨ m = .trip → t'.Auto
  bit : t'.bit → t'.Auto ∨ t.bit

variable {t : Tables} {key : LocationSessionKey} {m : BatchingMode} {bit' : Prop}

theorem Supported.mono {stopping stopping' : Prop} (h : t.Supported stopping)
    (hs : stopping → stopping') : t.Supported stopping' :=
  ⟨h.toAgree, fun hbit ↦ (h.needed hbit).imp_right hs⟩

theorem Starts.supported {t' : Tables} {stopping : Prop} (h : Starts t t' m)
    (hneeded : t.bit → t.Auto ∨ (m = .routine ∨ m = .trip) ∨ stopping) : t'.Supported stopping where
  toAgree := h.agree
  needed := by
    intro hbit
    rcases h.bit hbit with hauto | hbit
    · exact Or.inl hauto
    · rcases hneeded hbit with hauto | hm | hs
      · exact Or.inl (h.auto (Or.inl hauto))
      · exact Or.inl (h.auto (Or.inr hm))
      · exact Or.inr hs

variable {trip : ℕ → Prop} {bit : Prop}

theorem auto_update_some (hm : m ≠ .noAutoReport) :
    Auto ⟨Function.update t.mode key (some m), trip, bit⟩ :=
  ⟨key, m, Function.update_self .., hm⟩

/-- A session that is added takes none away. -/
theorem Auto.update_some (h : t.Auto) (hunused : t.mode key = none) :
    Auto ⟨Function.update t.mode key (some m), trip, bit⟩ := by
  obtain ⟨key', m', hmode, hm'⟩ := h
  refine ⟨key', m', ?_, hm'⟩
  have hne : key' ≠ key := by
    rintro rfl
    rw [hunused] at hmode
    cases hmode
  dsimp only
  rw [Function.update_of_ne hne]
  exact hmode

theorem auto_of_update_none (h : Auto ⟨Function.update t.mode key none, trip, bit⟩) : t.Auto := by
  obtain ⟨key', m', hmode, hm'⟩ := h
  refine ⟨key', m', ?_, hm'⟩
  by_cases hkey : key' = key
  · subst hkey
    simp at hmode
  · dsimp only at hmode
    rwa [Function.update_of_ne hkey] at hmode

theorem Agree.auto_of_trip (h : t.Agree) {id : ℕ} (ht : t.trip id) : t.Auto := by
  obtain ⟨key, hmode, -⟩ := (h.trips id).mp ht
  exact ⟨key, .trip, hmode, by decide⟩

/-- A change of the bit that leaves it to those who need it. -/
theorem Agree.of_bit (h : t.Agree) (hbit : t.Auto → bit') : Agree ⟨t.mode, t.trip, bit'⟩ :=
  ⟨h.trips, h.unique, hbit⟩

theorem Free.mode_eq_none (h : t.Free key.id) : t.mode key = none := by
  by_contra hsome
  exact h key hsome rfl

theorem Agree.unique_update_some (h : t.Agree) (hunused : t.Free key.id)
    (key₁ key₂ : LocationSessionKey)
    (h₁ : Function.update t.mode key (some m) key₁ ≠ none)
    (h₂ : Function.update t.mode key (some m) key₂ ≠ none) (hid : key₁.id = key₂.id) :
    key₁ = key₂ := by
  by_cases e₁ : key₁ = key <;> by_cases e₂ : key₂ = key
  · rw [e₁, e₂]
  · rw [Function.update_of_ne e₂] at h₂
    exact absurd (hid.symm.trans (congrArg _ e₁)) (hunused key₂ h₂)
  · rw [Function.update_of_ne e₁] at h₁
    exact absurd (hid.trans (congrArg _ e₂)) (hunused key₁ h₁)
  · rw [Function.update_of_ne e₁] at h₁
    rw [Function.update_of_ne e₂] at h₂
    exact h.unique key₁ key₂ h₁ h₂ hid

/-- A session of a new id that is no trip. -/
theorem Agree.save (h : t.Agree) (hunused : t.Free key.id)
    (hm : m ≠ .trip) (hbit : t.bit → bit') (hauto : m ≠ .noAutoReport → bit') :
    Agree ⟨Function.update t.mode key (some m), t.trip, bit'⟩ where
  trips := by
    intro id
    rw [h.trips]
    refine exists_congr fun key' ↦ and_congr_left fun _ ↦ ?_
    by_cases hkey : key' = key
    · subst hkey
      simp [hunused.mode_eq_none, hm]
    · dsimp only
      rw [Function.update_of_ne hkey]
  unique := h.unique_update_some hunused
  registered := by
    rintro ⟨key', m', hmode, hm'⟩
    by_cases hkey : key' = key
    · subst hkey
      dsimp only at hmode
      rw [Function.update_self] at hmode
      obtain rfl := some_inj.mp hmode
      exact hauto hm'
    · dsimp only at hmode
      rw [Function.update_of_ne hkey] at hmode
      exact hbit (h.registered ⟨key', m', hmode, hm'⟩)

/-- A trip of a new id. -/
theorem Agree.saveTrip (h : t.Agree) (hunused : t.Free key.id) (hbit : bit') :
    Agree ⟨Function.update t.mode key (some .trip), fun id ↦ id = key.id ∨ t.trip id, bit'⟩ where
  trips := by
    intro id
    dsimp only
    rw [h.trips]
    constructor
    · rintro (rfl | ⟨key', hmode, rfl⟩)
      · exact ⟨key, Function.update_self .., rfl⟩
      · refine ⟨key', ?_, rfl⟩
        have hkey : key' ≠ key := by
          rintro rfl
          exact hunused key' (by simp [hmode]) rfl
        rwa [Function.update_of_ne hkey]
    · rintro ⟨key', hmode, rfl⟩
      by_cases hkey : key' = key
      · exact Or.inl (congrArg _ hkey)
      · rw [Function.update_of_ne hkey] at hmode
        exact Or.inr ⟨key', hmode, rfl⟩
  unique := h.unique_update_some hunused
  registered := fun _ ↦ hbit

theorem OwnedBy.free (h : t.OwnedBy key) :
    Free ⟨Function.update t.mode key none, trip, bit⟩ key.id := by
  intro key' hmode hid
  by_cases hkey : key' = key
  · subst hkey
    simp at hmode
  · dsimp only at hmode
    rw [Function.update_of_ne hkey] at hmode
    exact hkey (h key' hmode hid)

theorem unique_update_none (h : t.Agree) (key₁ key₂ : LocationSessionKey)
    (h₁ : Function.update t.mode key none key₁ ≠ none)
    (h₂ : Function.update t.mode key none key₂ ≠ none) (hid : key₁.id = key₂.id) :
    key₁ = key₂ := by
  have hne : ∀ {key'}, Function.update t.mode key none key' ≠ none → t.mode key' ≠ none := by
    intro key' h'
    by_cases hkey : key' = key
    · subst hkey
      simp at h'
    · rwa [Function.update_of_ne hkey] at h'
  exact h.unique key₁ key₂ (hne h₁) (hne h₂) hid

/-- A session that is no trip goes. -/
theorem Agree.remove (h : t.Agree) (hm : t.mode key ≠ some .trip) :
    Agree ⟨Function.update t.mode key none, t.trip, t.bit⟩ where
  trips := by
    intro id
    rw [h.trips]
    refine exists_congr fun key' ↦ and_congr_left fun _ ↦ ?_
    by_cases hkey : key' = key
    · subst hkey
      simp [hm]
    · dsimp only
      rw [Function.update_of_ne hkey]
  unique := unique_update_none h
  registered := fun hauto ↦ h.registered (auto_of_update_none hauto)

/-- A session without automatic reports goes, which the bit does not depend on. -/
theorem Supported.remove {stopping : Prop} (h : t.Supported stopping)
    (hm : ∀ m, t.mode key = some m → m = .noAutoReport) :
    Supported ⟨Function.update t.mode key none, t.trip, t.bit⟩ stopping where
  toAgree := h.toAgree.remove fun hmode ↦ by cases hm _ hmode
  needed := by
    intro hbit
    refine (h.needed hbit).imp_left ?_
    rintro ⟨key', m, hmode, hm'⟩
    have hkey : key' ≠ key := by
      rintro rfl
      exact hm' (hm m hmode)
    refine ⟨key', m, ?_, hm'⟩
    dsimp only
    rwa [Function.update_of_ne hkey]

/-- A trip goes from both tables. -/
theorem Agree.removeTrip (h : t.Agree) (hown : t.OwnedBy key) :
    Agree ⟨Function.update t.mode key none, fun id ↦ id ≠ key.id ∧ t.trip id, t.bit⟩ where
  trips := by
    intro id
    dsimp only
    rw [h.trips]
    constructor
    · rintro ⟨hid, key', hmode, rfl⟩
      refine ⟨key', ?_, rfl⟩
      rwa [Function.update_of_ne fun hkey ↦ hid (congrArg _ hkey)]
    · rintro ⟨key', hmode, rfl⟩
      have hkey : key' ≠ key := by
        rintro rfl
        simp at hmode
      rw [Function.update_of_ne hkey] at hmode
      exact ⟨fun hid ↦ hkey (hown key' (by simp [hmode]) hid), key', hmode, rfl⟩
  unique := unique_update_none h
  registered := fun hauto ↦ h.registered (auto_of_update_none hauto)

end Tables

/-! ## The tables of an adapter -/

/-- The callback of the stop of a session that wants its reports automatically. -/
def Callback.stopsAuto : Callback → Bool
  | .stoppedBatching _ flpOptions _ _ => flpOptions.batchingMode ≠ .noAutoReport
  | _ => false

def Call.stopsAuto (c : Call) : Bool := c.response.any Callback.stopsAuto

namespace BatchingAdapter

/-- The tables, as far as they have to agree. -/
def tables (a : BatchingAdapter) : Tables where
  mode := fun key ↦ (a.mBatchingSessions.find? key).map BatchingOptions.batchingMode
  trip := fun id ↦ a.isTripSession id = true
  bit := a.batchFullBit = true

/-- No session has the id. -/
def Unused (a : BatchingAdapter) (id : ℕ) : Prop :=
  ∀ e ∈ a.mBatchingSessions.entries, e.1.id ≠ id

/-- No session of another client has the id. -/
def Owns (a : BatchingAdapter) (key : LocationSessionKey) : Prop :=
  ∀ e ∈ a.mBatchingSessions.entries, e.1.id = key.id → e.1 = key

/-- A session other than this one wants its reports automatically. -/
def OtherAuto (a : BatchingAdapter) (key : LocationSessionKey) : Prop :=
  ∃ e ∈ a.mBatchingSessions.entries, e.1 ≠ key ∧ e.2.batchingMode ≠ .noAutoReport

instance (a : BatchingAdapter) (id : ℕ) : Decidable (a.Unused id) :=
  inferInstanceAs (Decidable (∀ e ∈ a.mBatchingSessions.entries, _))

instance (a : BatchingAdapter) (key : LocationSessionKey) : Decidable (a.Owns key) :=
  inferInstanceAs (Decidable (∀ e ∈ a.mBatchingSessions.entries, _))

instance (a : BatchingAdapter) (key : LocationSessionKey) : Decidable (a.OtherAuto key) :=
  inferInstanceAs (Decidable (∃ e ∈ a.mBatchingSessions.entries, _))

variable {a : BatchingAdapter} {key : LocationSessionKey} {options : BatchingOptions}

theorem tables_mode_eq_some_iff {m : BatchingMode} :
    a.tables.mode key = some m ↔ ∃ o, (key, o) ∈ a.mBatchingSessions.entries ∧
      o.batchingMode = m := by
  simp [tables, find?_eq_some_iff]

theorem tables_mode_ne_none_iff :
    a.tables.mode key ≠ none ↔ ∃ o, (key, o) ∈ a.mBatchingSessions.entries := by
  rw [Option.ne_none_iff_exists']
  simp [tables_mode_eq_some_iff]

variable {id : ℕ} {err : LocationError}

theorem Unused.free (h : a.Unused id) : a.tables.Free id := by
  intro key' hkey
  obtain ⟨o, ho⟩ := tables_mode_ne_none_iff.mp hkey
  exact h _ ho

theorem Owns.ownedBy (h : a.Owns key) : a.tables.OwnedBy key := by
  intro key' hkey
  obtain ⟨o, ho⟩ := tables_mode_ne_none_iff.mp hkey
  exact h _ ho

theorem tables_trip_iff :
    a.tables.trip id ↔ ∃ status, a.mTripSessions.find? id = some status :=
  isSome_iff_exists

theorem tables_saveBatchingSession :
    (a.saveBatchingSession key options).tables =
      ⟨Function.update a.tables.mode key (some options.batchingMode), a.tables.trip,
        a.tables.bit⟩ := by
  rw [tables, tables, Tables.mk.injEq]
  refine ⟨funext fun key' ↦ ?_, rfl, rfl⟩
  simp only [saveBatchingSession, find?_insert, Function.update_apply]
  split <;> rfl

theorem tables_eraseBatchingSession :
    (a.eraseBatchingSession key).tables =
      ⟨Function.update a.tables.mode key none, a.tables.trip, a.tables.bit⟩ := by
  rw [tables, tables, Tables.mk.injEq]
  refine ⟨funext fun key' ↦ ?_, rfl, rfl⟩
  simp only [eraseBatchingSession, find?_erase, Function.update_apply]
  split <;> rfl

theorem tables_insert {status : TripSessionStatus} :
    ({ a with mTripSessions := a.mTripSessions.insert id status } : BatchingAdapter).tables =
      ⟨a.tables.mode, fun id' ↦ id' = id ∨ a.tables.trip id', a.tables.bit⟩ := by
  rw [tables, tables, Tables.mk.injEq]
  refine ⟨rfl, funext fun id' ↦ ?_, rfl⟩
  simp only [isTripSession, find?_insert]
  split <;> simp [*]

theorem tables_erase :
    ({ a with mTripSessions := a.mTripSessions.erase id } : BatchingAdapter).tables =
      ⟨a.tables.mode, fun id' ↦ id' ≠ id ∧ a.tables.trip id', a.tables.bit⟩ := by
  rw [tables, tables, Tables.mk.injEq]
  refine ⟨rfl, funext fun id' ↦ ?_, rfl⟩
  simp only [isTripSession, find?_erase]
  split <;> simp [*]

theorem tables_mapValues (f : TripSessionStatus → TripSessionStatus) :
    ({ a with mTripSessions := a.mTripSessions.mapValues f } : BatchingAdapter).tables =
      a.tables := by
  rw [tables, tables, Tables.mk.injEq]
  refine ⟨rfl, funext fun id' ↦ ?_, rfl⟩
  simp only [isTripSession, OrderedMap.find?_mapValues, Option.isSome_map]

theorem size_eq_zero_iff_tables : a.mTripSessions.size = 0 ↔ ∀ id, ¬a.tables.trip id := by
  rw [OrderedMap.size_eq_zero_iff]
  refine forall_congr' fun id ↦ ?_
  rw [tables_trip_iff, ← Option.ne_none_iff_exists', not_not]

theorem countP_eq_zero_iff :
    a.mBatchingSessions.values.countP (fun o ↦ o.batchingMode ≠ .noAutoReport) = 0 ↔
      ¬a.tables.Auto := by
  rw [countP_eq_zero]
  simp only [OrderedMap.values, mem_map, Tables.Auto, tables_mode_eq_some_iff]
  constructor
  · rintro h ⟨key, m, ⟨o, ho, rfl⟩, hm⟩
    exact h o ⟨_, ho, rfl⟩ (decide_eq_true hm)
  · rintro h o ⟨⟨key, o⟩, ho, rfl⟩ hm
    exact h ⟨key, _, ⟨o, ho, rfl⟩, of_decide_eq_true hm⟩

/-- The count that guards the registration is that of both tables. -/
theorem autoReportBatchingSessionsCount_eq_zero_iff (h : a.tables.Agree) :
    a.autoReportBatchingSessionsCount = 0 ↔ ¬a.tables.Auto := by
  rw [autoReportBatchingSessionsCount, Nat.add_eq_zero_iff, countP_eq_zero_iff,
    size_eq_zero_iff_tables, and_iff_left_iff_imp]
  exact fun hauto id ht ↦ hauto (h.auto_of_trip ht)

/-- A trip counts twice. -/
theorem autoReportBatchingSessionsCount_ne_one (h : a.tables.Agree)
    (ht : a.tables.trip id) : a.autoReportBatchingSessionsCount ≠ 1 := by
  have hcount := mt countP_eq_zero_iff.mp (not_not_intro (h.auto_of_trip ht))
  have hsize : a.mTripSessions.size ≠ 0 := fun hzero ↦ size_eq_zero_iff_tables.mp hzero id ht
  rw [autoReportBatchingSessionsCount]
  omega

/-! ## Starting -/

theorem tables_startBatching (pendingMsg : Bool) :
    (a.startBatching key options pendingMsg).1.tables =
      ⟨Function.update a.tables.mode key (some options.batchingMode), a.tables.trip,
        a.tables.bit ∨ options.batchingMode ≠ .noAutoReport ∧
          a.autoReportBatchingSessionsCount = 0⟩ := by
  rw [startBatching]
  dsimp only
  rw [tables_saveBatchingSession]
  split
  · next h => simp [updateEvtMask, tables, isTripSession, h]
  · next h => simp only [h, or_false]

theorem starts_startBatching (h : a.tables.Agree) (hu : a.tables.Free key.id)
    (hm : options.batchingMode ≠ .trip) (pendingMsg : Bool) :
    Tables.Starts a.tables (a.startBatching key options pendingMsg).1.tables
      options.batchingMode := by
  rw [tables_startBatching]
  refine ⟨h.save hu hm Or.inl fun hauto ↦ ?_, ?_, ?_⟩
  · -- a session that wants its reports finds the bit set, or sets it
    by_cases hcount : a.autoReportBatchingSessionsCount = 0
    · exact Or.inr ⟨hauto, hcount⟩
    · rw [autoReportBatchingSessionsCount_eq_zero_iff h, not_not] at hcount
      exact Or.inl (h.registered hcount)
  · rintro (hauto | hmode | hmode)
    · exact hauto.update_some hu.mode_eq_none
    · exact Tables.auto_update_some (by rw [hmode]; decide)
    · exact absurd hmode hm
  · rintro (hbit | ⟨hauto, -⟩)
    · exact Or.inr hbit
    · exact Or.inl (Tables.auto_update_some hauto)

theorem tables_startTripBatchingMultiplex_of_size_eq_zero (hzero : a.mTripSessions.size = 0) :
    (a.startTripBatchingMultiplex key options).1.tables =
      ⟨Function.update a.tables.mode key (some options.batchingMode),
        fun id ↦ id = key.id ∨ a.tables.trip id,
        a.tables.bit ∨ a.autoReportBatchingSessionsCount = 0⟩ := by
  rw [startTripBatchingMultiplex, if_pos hzero]
  refine tables_insert.trans ?_
  rw [tables_saveBatchingSession]
  split
  · next h => simp [updateEvtMask, tables, isTripSession, h]
  · next h => simp only [h, or_false]

theorem starts_startTripBatchingMultiplex (h : a.tables.Agree) (hu : a.tables.Free key.id)
    (hm : options.batchingMode = .trip) :
    Tables.Starts a.tables (a.startTripBatchingMultiplex key options).1.tables
      options.batchingMode := by
  by_cases hzero : a.mTripSessions.size = 0
  · rw [tables_startTripBatchingMultiplex_of_size_eq_zero hzero, hm]
    have hauto : ∀ trip bit,
        Tables.Auto ⟨Function.update a.tables.mode key (some .trip), trip, bit⟩ :=
      fun trip bit ↦ Tables.auto_update_some (by decide)
    refine ⟨h.saveTrip hu ?_, fun _ ↦ hauto _ _, fun _ ↦ Or.inl (hauto _ _)⟩
    by_cases hcount : a.autoReportBatchingSessionsCount = 0
    · exact Or.inr hcount
    · rw [autoReportBatchingSessionsCount_eq_zero_iff h, not_not] at hcount
      exact Or.inl (h.registered hcount)
  · -- the trip is entered once the engine has said how far the batch is
    rw [startTripBatchingMultiplex, if_neg hzero]
    rw [size_eq_zero_iff_tables] at hzero
    push Not at hzero
    obtain ⟨id, ht⟩ := hzero
    exact ⟨h, fun _ ↦ h.auto_of_trip ht, Or.inr⟩

theorem starts_restart (h : a.tables.Agree) (hu : a.tables.Free key.id) :
    Tables.Starts a.tables (a.restart key options).1.tables options.batchingMode := by
  rw [restart]
  split
  · next hm => exact starts_startBatching h hu (by rw [hm]; decide) false
  · next hm => exact starts_startBatching h hu (by rw [hm]; decide) false
  · next hm => exact starts_startTripBatchingMultiplex h hu hm
  · next hm => exact ⟨h, by simp [hm], Or.inr⟩

/-! ## Stopping -/

theorem tables_restartTripBatching (h : a.mTripSessions.size ≠ 0)
    (queryAccumulatedDistance : Bool) (accDist : UInt32) :
    (a.restartTripBatching queryAccumulatedDistance accDist).1.tables = a.tables := by
  rw [restartTripBatching, if_neg h]

variable {stopping : Prop}

/-- A session that is no trip goes, and its stop waits for an answer. -/
theorem supported_stopBatching (h : a.tables.Supported stopping)
    (hm : a.tables.mode key ≠ some .trip) (restartNeeded : Bool) :
    (a.stopBatching key restartNeeded options).1.tables.Supported
      (stopping ∨ ∃ c ∈ (a.stopBatching key restartNeeded options).2, c.stopsAuto = true) := by
  rw [stopBatching]
  split
  · exact h.mono Or.inl
  · next flpOptions hfind =>
    dsimp only
    rw [tables_eraseBatchingSession]
    by_cases hflp : flpOptions.batchingMode = .noAutoReport
    · refine (h.remove fun m hmode ↦ ?_).mono Or.inl
      simp only [tables, hfind, Option.map_some, some_inj] at hmode
      rw [← hmode, hflp]
    · refine ⟨h.toAgree.remove hm, fun _ ↦ Or.inr (Or.inr ⟨_, mem_singleton.mpr rfl, ?_⟩)⟩
      simp [Call.stopsAuto, Call.response, Callback.stopsAuto, hflp]

/-- A trip that is gone from its own table is taken out of the other one and started again. -/
theorem starts_restart_of_eraseBatchingSession {t : Tables} (h : t.Agree) (hown : t.OwnedBy key)
    (ha : a.tables = ⟨t.mode, fun id ↦ id ≠ key.id ∧ t.trip id, t.bit⟩) :
    Tables.Starts ⟨Function.update t.mode key none, fun id ↦ id ≠ key.id ∧ t.trip id, t.bit⟩
      ((a.eraseBatchingSession key).restart key options).1.tables options.batchingMode := by
  have herase : (a.eraseBatchingSession key).tables =
      ⟨Function.update t.mode key none, fun id ↦ id ≠ key.id ∧ t.trip id, t.bit⟩ := by
    rw [tables_eraseBatchingSession, ha]
  have hstart : Tables.Starts (a.eraseBatchingSession key).tables
      ((a.eraseBatchingSession key).restart key options).1.tables options.batchingMode :=
    starts_restart (by rw [herase]; exact h.removeTrip hown) (by rw [herase]; exact hown.free)
  rwa [herase] at hstart

variable {result : BatchingAdapter × List Call} {a' : BatchingAdapter}
  {accumulatedDistance : UInt32}

/-- A trip of an update goes from both tables, and is started in its new mode. -/
theorem starts_stopTripBatchingMultiplexCommon (h : a.tables.Agree) (hown : a.tables.OwnedBy key)
    (hr : a.stopTripBatchingMultiplexCommon key err true options = some result) :
    a.tables.trip key.id ∧
    Tables.Starts ⟨Function.update a.tables.mode key none,
      fun id ↦ id ≠ key.id ∧ a.tables.trip id, a.tables.bit⟩ result.1.tables
      options.batchingMode := by
  rw [stopTripBatchingMultiplexCommon] at hr
  split at hr
  · cases hr
  · next tripSess hfind =>
    obtain rfl := some_inj.mp hr
    refine ⟨tables_trip_iff.mpr ⟨_, hfind⟩, ?_⟩
    dsimp only
    rw [if_pos rfl]
    refine starts_restart_of_eraseBatchingSession h hown ?_
    split
    · exact tables_erase
    · next hsize =>
      rw [tables_restartTripBatching hsize]
      exact tables_erase

/-- As long as somebody counts, the bit is needed. -/
theorem supported_of_count_ne_zero (h : a.tables.Agree)
    (hc : a.autoReportBatchingSessionsCount ≠ 0) : a.tables.Supported stopping := by
  rw [ne_eq, autoReportBatchingSessionsCount_eq_zero_iff h, not_not] at hc
  exact ⟨h, fun _ ↦ Or.inl hc⟩

/-- When nobody counts any more the bit can be cleared. -/
theorem supported_updateEvtMask_false (h : a.tables.Agree)
    (hc : a.autoReportBatchingSessionsCount = 0) :
    (a.updateEvtMask false).tables.Supported stopping := by
  rw [autoReportBatchingSessionsCount_eq_zero_iff h] at hc
  exact ⟨h.of_bit fun hauto ↦ absurd hauto hc, fun hbit ↦ by cases hbit⟩

/-- The answer to a start takes the session out again if the start has failed. -/
theorem supported_startedBatching (options : BatchingOptions) (h : a.tables.Supported stopping)
    (hk : a.mEngineLockState = .enabled → err ≠ .success →
      ∀ o ∈ a.mBatchingSessions.find? key, o.batchingMode = .noAutoReport ∨
        o.batchingMode ≠ .trip ∧ options.batchingMode ≠ .noAutoReport)
    (ha' : a' = if a.mEngineLockState = .enabled ∧ err ≠ .success then
      a.eraseBatchingSession key else a) :
    (if err ≠ .success ∧ options.batchingMode ≠ .noAutoReport ∧
      a'.autoReportBatchingSessionsCount = 0 then a'.updateEvtMask false else a').tables.Supported
      stopping := by
  have hagree : a'.tables.Agree := by
    rw [ha']
    split
    · next hfail =>
      rw [tables_eraseBatchingSession]
      refine h.toAgree.remove fun hmode ↦ ?_
      obtain ⟨o, hfind, hm⟩ := map_eq_some_iff.mp hmode
      rcases hk hfail.1 hfail.2 o hfind with hno | ⟨hno, -⟩
      · rw [hm] at hno
        cases hno
      · exact hno hm
    · exact h.toAgree
  split
  · next hclear => exact supported_updateEvtMask_false hagree hclear.2.2
  · next hkeep =>
    by_cases hc : a'.autoReportBatchingSessionsCount = 0
    · rw [ha']
      split
      · next hfail =>
        -- what has failed is the start of a session without automatic reports
        rw [tables_eraseBatchingSession]
        refine h.remove fun m hmode ↦ ?_
        obtain ⟨o, hfind, hm⟩ := map_eq_some_iff.mp hmode
        rcases hk hfail.1 hfail.2 o hfind with hno | ⟨-, hauto⟩
        · exact hm.symm.trans hno
        · exact absurd ⟨hfail.2, hauto, hc⟩ hkeep
      · exact h
    · exact supported_of_count_ne_zero hagree hc

/-- The answer to the start of the first trip takes the trip out of both tables if it has failed. -/
theorem supported_startedTrip (h : a.tables.Agree) (hown : a.tables.OwnedBy key) (ha' : a' = { a.eraseBatchingSession key with
      mTripSessions := (a.eraseBatchingSession key).mTripSessions.erase key.id }) :
    (if a'.autoReportBatchingSessionsCount = 0 then a'.updateEvtMask false else a').tables.Supported
      stopping := by
  have hagree : a'.tables.Agree := by
    rw [ha', tables_erase, tables_eraseBatchingSession]
    exact h.removeTrip hown
  split
  · next hc => exact supported_updateEvtMask_false hagree hc
  · next hc => exact supported_of_count_ne_zero hagree hc

/-- The answer to a stop restores the session, or clears the bit and starts it again. -/
theorem supported_stoppedBatching {flpOptions batchOptions : BatchingOptions} {restartNeeded : Bool}
    (h : a.tables.Supported (stopping ∨ flpOptions.batchingMode ≠ .noAutoReport))
    (hu : a.tables.Free key.id)
    (hk : a.mEngineLockState = .enabled → err ≠ .success →
      batchOptions.batchingMode = flpOptions.batchingMode ∧ flpOptions.batchingMode ≠ .trip ∧
        (flpOptions.batchingMode ≠ .noAutoReport → a.batchFullBit = true))
    (hr : a.locApiResponseProc err accumulatedDistance
      (.stoppedBatching key flpOptions restartNeeded batchOptions) = some result) :
    result.1.tables.Supported stopping := by
  rw [locApiResponseProc] at hr
  split at hr
  · next hfail =>
    obtain rfl := some_inj.mp hr
    obtain ⟨hmode, htrip, hbit⟩ := hk hfail.1 hfail.2
    dsimp only
    rw [tables_saveBatchingSession, hmode]
    refine ⟨h.save hu htrip id hbit, fun hb ↦ ?_⟩
    rcases h.needed hb with hauto | hs | hflp
    · exact Or.inl (hauto.update_some hu.mode_eq_none)
    · exact Or.inr hs
    · exact Or.inl (Tables.auto_update_some hflp)
  · obtain rfl := some_inj.mp hr
    obtain ⟨a', ha'⟩ : ∃ a', a' = if a.autoReportBatchingSessionsCount = 0 ∧
        flpOptions.batchingMode ≠ .noAutoReport then a.updateEvtMask false else a := ⟨_, rfl⟩
    have hfree : a'.tables.Free key.id := by
      rw [ha']
      split <;> exact hu
    have hsupp : a'.tables.Supported stopping := by
      rw [ha']
      split
      · next hclear => exact supported_updateEvtMask_false h.toAgree hclear.1
      · next hkeep =>
        refine ⟨h.toAgree, fun hb ↦ ?_⟩
        rcases h.needed hb with hauto | hs | hflp
        · exact Or.inl hauto
        · exact Or.inr hs
        · by_contra hnot
          rw [not_or, ← autoReportBatchingSessionsCount_eq_zero_iff h.toAgree] at hnot
          exact hkeep ⟨hnot.1, hflp⟩
    dsimp only
    rw [← ha']
    cases restartNeeded with
    | false => exact hsupp
    | true =>
      exact (starts_restart hsupp.toAgree hfree).supported fun hb ↦
        (hsupp.needed hb).imp_right Or.inr

/-- A trip other than the one that goes keeps the bit in use. -/
theorem auto_of_size_ne_one (h : a.tables.Agree) (hown : a.tables.OwnedBy key)
    (ht : a.tables.trip key.id) (hsize : a.mTripSessions.size ≠ 1) :
    Tables.Auto ⟨Function.update a.tables.mode key none,
      fun id ↦ id ≠ key.id ∧ a.tables.trip id, a.tables.bit⟩ := by
  obtain ⟨status, hfind⟩ := tables_trip_iff.mp ht
  have hne := mt (OrderedMap.erase_values_eq_nil_iff hfind).mp hsize
  obtain ⟨status', hstatus⟩ := exists_mem_of_ne_nil _ hne
  obtain ⟨⟨id, s⟩, he, rfl⟩ := mem_map.mp hstatus
  obtain ⟨he, hid⟩ := OrderedMap.mem_entries_erase.mp he
  have htrip : id ≠ key.id ∧ a.tables.trip id :=
    ⟨hid, tables_trip_iff.mpr ⟨s, find?_eq_some_iff.mpr he⟩⟩
  exact (h.removeTrip hown).auto_of_trip htrip

theorem tables_reportCompletedTripsProc
    (h : ∀ e ∈ a.mTripSessions.entries, (e.2.accumulate accumulatedDistance).completed = false) :
    (a.reportCompletedTripsProc accumulatedDistance).1.tables = a.tables := by
  have hmap : ∀ e ∈ (a.mTripSessions.mapValues (·.accumulate accumulatedDistance)).entries,
      e.2.completed = false := by
    intro e he
    obtain ⟨e', he', rfl⟩ := mem_map.mp he
    exact h e' he'
  have hnone : ((a.mTripSessions.mapValues (·.accumulate accumulatedDistance)).filter
      fun e ↦ e.2.completed).entries = [] := by
    refine filter_eq_nil_iff.mpr fun e he ↦ ?_
    rw [hmap e he]
    decide
  rw [reportCompletedTripsProc]
  simp only [OrderedMap.values, hnone, map_nil, foldl_nil, if_true]
  -- the table of the trips that are left has the entries that it had
  refine Eq.trans ?_ (tables_mapValues (·.accumulate accumulatedDistance))
  rw [tables, tables, Tables.mk.injEq]
  refine ⟨rfl, funext fun id ↦ ?_, rfl⟩
  simp only [isTripSession, OrderedMap.find?, OrderedMap.filter]
  rw [filter_eq_self.mpr fun e he ↦ by rw [hmap e he]; rfl]

end BatchingAdapter

/-! ## Messages that keep the agreement -/

open BatchingAdapter in
/-- A message after which the tables agree as they did before. -/
def LocMsg.KeepsTables (a : BatchingAdapter) (stopping : Prop) : LocMsg → Prop
  | .startBatching key _ => a.Unused key.id
  | .stopBatching key =>
    a.stopError key = .success → a.isTripSession key.id = true → a.mTripSessions.size = 1
  | .reportCompletedTrips accumulatedDistance =>
    ∀ e ∈ a.mTripSessions.entries, (e.2.accumulate accumulatedDistance).completed = false
  | .locApiResponse (.startedBatching key options _) err _ =>
    a.mEngineLockState = .enabled → err ≠ .success →
      ∀ o ∈ a.mBatchingSessions.find? key, o.batchingMode = .noAutoReport ∨
        o.batchingMode ≠ .trip ∧ options.batchingMode ≠ .noAutoReport
  | .locApiResponse (.stoppedBatching key flpOptions _ batchOptions) err _ =>
    a.Unused key.id ∧
      (a.mEngineLockState = .enabled → err ≠ .success →
        batchOptions.batchingMode = flpOptions.batchingMode ∧ flpOptions.batchingMode ≠ .trip ∧
          (flpOptions.batchingMode ≠ .noAutoReport → a.batchFullBit = true))
  | .locApiResponse (.startedTrip key _) err _ =>
    a.mEngineLockState ≠ .disabled → err ≠ .success → a.Owns key
  | .locApiResponse (.queriedForStart _ _) err _ => err ≠ .success
  | .locApiResponse (.stoppedTrip key restartNeeded batchOptions) _ _ =>
    restartNeeded = true ∧ a.Owns key ∧ (batchOptions.batchingMode = .routine ∨
      batchOptions.batchingMode = .trip ∨ a.OtherAuto key ∨ stopping)
  | _ => True

instance (a : BatchingAdapter) (stopping : Prop) [Decidable stopping] :
    DecidablePred (LocMsg.KeepsTables a stopping)
  | .startBatching key _ => inferInstanceAs (Decidable (a.Unused key.id))
  | .stopBatching _ => inferInstanceAs (Decidable (_ → _ → _))
  | .reportCompletedTrips _ => inferInstanceAs (Decidable (∀ e ∈ a.mTripSessions.entries, _))
  | .locApiResponse callback _ _ =>
    match callback with
    | .startedBatching key _ _ => inferInstanceAs (Decidable (_ → _))
    | .stoppedBatching .. => inferInstanceAs (Decidable (_ ∧ _))
    | .startedTrip .. => inferInstanceAs (Decidable (_ → _ → _))
    | .queriedForStart .. => inferInstanceAs (Decidable (_ ≠ _))
    | .stoppedTrip .. => inferInstanceAs (Decidable (_ ∧ _ ∧ _))
    | .gotBatchedLocations _ | .restartedForStart _ | .queriedForRestart .. | .restartedTrips ..
    | .ignore => .isTrue trivial
  | .updateBatching .. | .getBatchedLocations .. => .isTrue trivial

/-- The message is the answer to the stop of a session that wants its reports automatically. -/
def LocMsg.stopsAuto : LocMsg → Bool
  | .locApiResponse callback _ _ => callback.stopsAuto
  | _ => false

namespace BatchingAdapter

variable {a : BatchingAdapter} {key : LocationSessionKey} {options : BatchingOptions}
  {stopping : Prop} {result : BatchingAdapter × List Call}

theorem supported_startBatchingProc (h : a.tables.Supported stopping) (hu : a.Unused key.id) :
    (a.startBatchingProc key options).1.tables.Supported stopping := by
  rw [startBatchingProc]
  split
  · exact h
  split
  · have hneeded : a.tables.bit → a.tables.Auto ∨
        (options.batchingMode = .routine ∨ options.batchingMode = .trip) ∨ stopping :=
      fun hbit ↦ (h.needed hbit).imp_right Or.inr
    split
    · next hm =>
      exact (starts_startBatching h.toAgree hu.free (by rw [hm]; decide) true).supported hneeded
    · next hm =>
      exact (starts_startBatching h.toAgree hu.free (by rw [hm]; decide) true).supported hneeded
    · next hm => exact (starts_startTripBatchingMultiplex h.toAgree hu.free hm).supported hneeded
    · exact h
  · exact h

/-- The session of an update or a stop is that of its id. -/
theorem ownedBy_of_isBatchingSession (h : a.tables.Agree) (hs : a.isBatchingSession key = true) :
    a.tables.OwnedBy key := by
  intro key' hmode hid
  refine h.unique key' key hmode ?_ hid
  rw [isBatchingSession, isSome_iff_exists] at hs
  obtain ⟨o, ho⟩ := hs
  simp [tables, ho]

/-- A session that is not in the table of the trips is in another mode. -/
theorem mode_ne_trip (h : a.tables.Agree) (ht : ¬a.isTripSession key.id = true) :
    a.tables.mode key ≠ some .trip := fun hmode ↦ ht ((h.trips key.id).mpr ⟨key, hmode, rfl⟩)

theorem supported_updateBatchingProc (h : a.tables.Supported stopping)
    (hr : a.updateBatchingProc key options = some result) :
    result.1.tables.Supported (stopping ∨ ∃ c ∈ result.2, c.stopsAuto = true) := by
  rw [updateBatchingProc] at hr
  split at hr
  · obtain rfl := some_inj.mp hr
    exact h.mono Or.inl
  split at hr
  · next herr =>
    split at hr
    · next ht =>
      obtain rfl := some_inj.mp hr
      exact supported_stopBatching h (mode_ne_trip h.toAgree (by simpa using ht)) true
    · next ht =>
      rw [stopTripBatchingMultiplex] at hr
      split at hr
      · obtain rfl := some_inj.mp hr
        exact h.mono Or.inl
      · next hsize =>
        have hown := ownedBy_of_isBatchingSession h.toAgree (isBatchingSession_of_updateError herr)
        obtain ⟨ht, hstart⟩ := starts_stopTripBatchingMultiplexCommon h.toAgree hown hr
        exact (hstart.supported fun _ ↦
          Or.inl (auto_of_size_ne_one h.toAgree hown ht hsize)).mono Or.inl
  · obtain rfl := some_inj.mp hr
    exact h.mono Or.inl

theorem supported_stopBatchingProc (h : a.tables.Supported stopping)
    (hk : a.stopError key = .success → a.isTripSession key.id = true → a.mTripSessions.size = 1)
    (hr : a.stopBatchingProc key = some result) :
    result.1.tables.Supported (stopping ∨ ∃ c ∈ result.2, c.stopsAuto = true) := by
  rw [stopBatchingProc] at hr
  split at hr
  · obtain rfl := some_inj.mp hr
    exact h.mono Or.inl
  split at hr
  · next herr =>
    split at hr
    · next ht =>
      rw [stopTripBatchingMultiplex, if_pos (hk herr ht)] at hr
      obtain rfl := some_inj.mp hr
      exact h.mono Or.inl
    · next ht =>
      obtain rfl := some_inj.mp hr
      exact supported_stopBatching h (mode_ne_trip h.toAgree ht) false
  · obtain rfl := some_inj.mp hr
    exact h.mono Or.inl

variable {err : LocationError} {accumulatedDistance : UInt32}

/-- The answer to the stop of the last trip, for an update. -/
theorem supported_stoppedTrip (h : a.tables.Agree) (hown : a.Owns key)
    (hk : options.batchingMode = .routine ∨ options.batchingMode = .trip ∨ a.OtherAuto key ∨
      stopping)
    (hr : a.locApiResponseProc err accumulatedDistance (.stoppedTrip key true options) =
      some result) : result.1.tables.Supported stopping := by
  rw [locApiResponseProc] at hr
  have hstart : Tables.Starts ⟨Function.update a.tables.mode key none,
      fun id ↦ id ≠ key.id ∧ a.tables.trip id, a.tables.bit⟩ result.1.tables
      options.batchingMode := by
    split at hr
    · next hone =>
      -- the trip is in both tables, so that the count is not one
      have htrip : a.tables.trip key.id := by
        rw [stopTripBatchingMultiplexCommon] at hr
        split at hr
        · cases hr
        · next tripSess hfind => exact tables_trip_iff.mpr ⟨_, hfind⟩
      exact absurd hone.2 (autoReportBatchingSessionsCount_ne_one h htrip)
    · exact (starts_stopTripBatchingMultiplexCommon h hown.ownedBy hr).2
  refine hstart.supported fun _ ↦ ?_
  rcases hk with hm | hm | ⟨e, he, hkey, hm⟩ | hs
  · exact Or.inr (Or.inl (Or.inl hm))
  · exact Or.inr (Or.inl (Or.inr hm))
  · refine Or.inl ⟨e.1, _, ?_, hm⟩
    dsimp only
    rw [Function.update_of_ne hkey]
    exact tables_mode_eq_some_iff.mpr ⟨e.2, he, rfl⟩
  · exact Or.inr (Or.inr hs)

theorem tables_queriedForStart (herr : err ≠ .success) (accumulatedDistance : UInt32) :
    (a.queriedForStart key options err accumulatedDistance).1.tables = a.tables := by
  rw [queriedForStart, if_neg herr]
  split
  · exact tables_mapValues _
  · rfl

theorem supported_locApiResponseProc {callback : Callback}
    (h : a.tables.Supported (stopping ∨ callback.stopsAuto = true))
    (hk : LocMsg.KeepsTables a stopping (.locApiResponse callback err accumulatedDistance))
    (hr : a.locApiResponseProc err accumulatedDistance callback = some result) :
    result.1.tables.Supported stopping := by
  cases callback with
  | stoppedBatching key flpOptions restartNeeded batchOptions =>
    refine supported_stoppedBatching (h.mono (Or.imp_right fun hs ↦ ?_)) hk.1.free hk.2 hr
    exact of_decide_eq_true hs
  | stoppedTrip key restartNeeded batchOptions =>
    obtain ⟨rfl, hown, hk⟩ := hk
    exact supported_stoppedTrip h.toAgree hown hk hr
  | startedBatching key options pendingMsg =>
    obtain rfl := some_inj.mp hr
    have h' : a.tables.Supported stopping := h.mono (by simp [Callback.stopsAuto])
    have hs := supported_startedBatching options h' hk rfl
    dsimp only
    split
    · exact hs
    · exact hs
  | startedTrip key options =>
    obtain rfl := some_inj.mp hr
    have h' : a.tables.Supported stopping := h.mono (by simp [Callback.stopsAuto])
    dsimp only
    split
    · exact h'
    · next hfail =>
      rw [not_or] at hfail
      exact supported_startedTrip h'.toAgree (hk hfail.1 hfail.2).ownedBy rfl
  | queriedForStart key options =>
    obtain rfl := some_inj.mp hr
    rw [tables_queriedForStart hk]
    exact h.mono (by simp [Callback.stopsAuto])
  | queriedForRestart queryAccumulatedDistance minRemainingDistance minTBFInterval accDist =>
    obtain rfl := some_inj.mp hr
    rw [queriedForRestart]
    split <;> exact h.mono (by simp [Callback.stopsAuto])
  | restartedTrips accumulatedDistance ongoingTripDistance ongoingTripInterval =>
    obtain rfl := some_inj.mp hr
    have h' : a.tables.Supported stopping := h.mono (by simp [Callback.stopsAuto])
    dsimp only
    rw [restartedTrips]
    split
    · exact (tables_mapValues _).symm ▸ h'
    · exact h'
  | gotBatchedLocations key | restartedForStart key | ignore =>
    obtain rfl := some_inj.mp hr
    exact h.mono (by simp [Callback.stopsAuto])

/-- **Processing a message keeps the agreement.** -/
theorem supported_proc {msg : LocMsg} (h : a.tables.Supported (stopping ∨ msg.stopsAuto = true))
    (hk : msg.KeepsTables a stopping) (hr : a.proc msg = some result) :
    result.1.tables.Supported (stopping ∨ ∃ c ∈ result.2, c.stopsAuto = true) := by
  cases msg with
  | locApiResponse callback err accumulatedDistance =>
    exact (supported_locApiResponseProc h hk hr).mono Or.inl
  | startBatching key options =>
    obtain rfl := some_inj.mp hr
    have h' : a.tables.Supported stopping := h.mono (by simp [LocMsg.stopsAuto])
    exact (supported_startBatchingProc h' hk).mono Or.inl
  | updateBatching key options =>
    exact supported_updateBatchingProc (h.mono (by simp [LocMsg.stopsAuto])) hr
  | stopBatching key =>
    exact supported_stopBatchingProc (h.mono (by simp [LocMsg.stopsAuto])) hk hr
  | getBatchedLocations key count =>
    obtain rfl := some_inj.mp hr
    have h' : a.tables.Supported stopping := h.mono (by simp [LocMsg.stopsAuto])
    rw [getBatchedLocationsProc]
    repeat' split
    all_goals exact h'.mono Or.inl
  | reportCompletedTrips accumulatedDistance =>
    obtain rfl := some_inj.mp hr
    have h' : a.tables.Supported stopping := h.mono (by simp [LocMsg.stopsAuto])
    rw [tables_reportCompletedTripsProc hk]
    exact h'.mono Or.inl

end BatchingAdapter

/-! ## Runs -/

namespace BatchingSystem

/-- A stop of a session that wants its reports automatically has not been looked after yet. -/
def Stopping (s : BatchingSystem) : Prop :=
  (∃ e ∈ s.queue, e.msg.stopsAuto = true) ∨ ∃ x ∈ s.awaiting, x.2.stopsAuto = true

instance (s : BatchingSystem) : Decidable s.Stopping := inferInstanceAs (Decidable (_ ∨ _))

/-- The next message to be processed keeps the agreement of the tables. -/
def NextKeepsTables (s : BatchingSystem) : Event → Prop
  | .proc => ∀ e ∈ s.queue.head?,
    e.msg.KeepsTables s.adapter { s with queue := s.queue.tail }.Stopping
  | _ => True

instance (s : BatchingSystem) : DecidablePred s.NextKeepsTables
  | .proc => inferInstanceAs (Decidable (∀ e ∈ s.queue.head?, _))
  | .startBatchingCommand .. | .updateBatchingOptionsCommand .. | .stopBatchingCommand ..
  | .getBatchedLocationsCommand .. | .reportCompletedTripsEvent _ | .returnToSender ..
  | .setEngineLockState _ | .travel _ => .isTrue trivial

/-- The tables agree, apart from what the stops in progress will do. -/
def TablesSupported (s : BatchingSystem) : Prop := s.adapter.tables.Supported s.Stopping

variable {s : BatchingSystem}

theorem tablesSupported_initial (adapter : BatchingAdapter) : (initial adapter).TablesSupported where
  trips := by simp [BatchingAdapter.tables, BatchingAdapter.isTripSession, initial]
  unique := by simp [BatchingAdapter.tables, initial]
  registered := by simp [Tables.Auto, BatchingAdapter.tables, initial]
  needed := by simp [BatchingAdapter.tables, initial]

variable {s' : BatchingSystem}

/-- A change that keeps the tables and forgets no stop. -/
theorem TablesSupported.of_eq (h : s.TablesSupported)
    (htables : s'.adapter.tables = s.adapter.tables) (hs : s.Stopping → s'.Stopping) :
    s'.TablesSupported := by
  rw [TablesSupported, htables]
  exact Tables.Supported.mono h hs

theorem TablesSupported.sendMsg (h : s.TablesSupported) {e : Envelope}
    (htables : s'.adapter.tables = s.adapter.tables) (hqueue : s'.queue = s.queue ++ [e])
    (hawaiting : s'.awaiting = s.awaiting) : s'.TablesSupported := by
  refine h.of_eq htables fun hs ↦ ?_
  rw [Stopping, hqueue, hawaiting]
  refine hs.imp_left ?_
  rintro ⟨e', he', hs'⟩
  exact ⟨e', mem_append_left _ he', hs'⟩

variable {outs : List (Owned Call)}

theorem TablesSupported.give (h : s.TablesSupported) {key : LocationSessionKey} {msg : LocMsg}
    (hs : s.give key msg = some (s', outs)) : s'.TablesSupported := by
  rw [BatchingSystem.give] at hs
  split at hs
  · obtain ⟨rfl, rfl⟩ := some_pair_inj hs
    exact h.sendMsg rfl rfl rfl
  · cases hs

theorem stopping_cons {e : Envelope} {queue : List Envelope} (hqueue : s.queue = e :: queue) :
    s.Stopping ↔ { s with queue := queue }.Stopping ∨ e.msg.stopsAuto = true := by
  simp only [Stopping, hqueue, mem_cons, exists_eq_or_imp]
  exact or_assoc.trans or_comm

theorem TablesSupported.proc (h : s.TablesSupported) (hg : s.NextKeepsTables .proc)
    (hs : s.step .proc = some (s', outs)) : s'.TablesSupported := by
  rw [step] at hs
  split at hs
  · cases hs
  · next e queue hqueue =>
    obtain ⟨result, hproc, heq⟩ := map_eq_some_iff.mp hs
    obtain ⟨rfl, -⟩ := Prod.mk.inj heq
    have hk : e.msg.KeepsTables s.adapter { s with queue := queue }.Stopping := by
      have hnext := hg e (by rw [hqueue]; rfl)
      rwa [hqueue] at hnext
    have hsupp := BatchingAdapter.supported_proc
      (Tables.Supported.mono h (stopping_cons hqueue).mp) hk hproc
    refine Tables.Supported.mono hsupp ?_
    rintro (hs | ⟨c, hc, hs⟩)
    · refine hs.imp_right ?_
      rintro ⟨x, hx, hx'⟩
      exact ⟨x, mem_append_left _ hx, hx'⟩
    · -- the request is among those that wait now
      rw [Call.stopsAuto] at hs
      cases hresponse : c.response with
      | none => simp [hresponse] at hs
      | some callback =>
        rw [hresponse] at hs
        refine Or.inr ⟨(e.owner, callback), mem_append_right _ ?_, hs⟩
        exact mem_filterMap.mpr ⟨c, hc, by rw [hresponse]; rfl⟩

/-- An answer takes the place of the request it is for. -/
theorem TablesSupported.returnToSender (h : s.TablesSupported) {i : ℕ} {err : LocationError} {accumulatedDistance : UInt32}
    (hs : s.step (.returnToSender i err accumulatedDistance) = some (s', outs)) :
    s'.TablesSupported := by
  rw [step] at hs
  split at hs
  · cases hs
  · next owner callback hi =>
    obtain ⟨rfl, -⟩ := some_pair_inj hs
    refine h.of_eq rfl ?_
    rintro (⟨e, he, hs⟩ | ⟨x, hx, hs⟩)
    · exact Or.inl ⟨e, mem_append_left _ he, hs⟩
    · obtain ⟨hlt, hget⟩ := List.getElem?_eq_some_iff.mp hi
      have hperm := getElem_cons_eraseIdx_perm hlt
      rw [hget] at hperm
      rcases mem_cons.mp (hperm.mem_iff.mpr hx) with rfl | hx
      · exact Or.inl ⟨_, mem_append_right _ (mem_singleton.mpr rfl), hs⟩
      · exact Or.inr ⟨x, hx, hs⟩

theorem TablesSupported.step (h : s.TablesSupported) {e : Event} (hg : s.NextKeepsTables e) (hs : s.step e = some (s', outs)) :
    s'.TablesSupported := by
  cases e with
  | startBatchingCommand client options =>
    have h' : TablesSupported
        { s with mSessionIdCounter := generateSessionId s.mSessionIdCounter } := h
    exact h'.give hs
  | updateBatchingOptionsCommand client id options => exact h.give hs
  | stopBatchingCommand client id => exact h.give hs
  | getBatchedLocationsCommand client id count => exact h.give hs
  | reportCompletedTripsEvent accumulatedDistance =>
    obtain ⟨rfl, rfl⟩ := some_pair_inj hs
    exact h.sendMsg rfl rfl rfl
  | proc => exact h.proc hg hs
  | returnToSender i err accumulatedDistance => exact h.returnToSender hs
  | setEngineLockState state | travel distance =>
    obtain ⟨rfl, rfl⟩ := some_pair_inj hs
    exact h.of_eq rfl id

end BatchingSystem

/-- The trips are the sessions of mode trip, and the event is registered exactly as long as a
session wants its reports automatically. -/
def BatchingAdapter.TablesAgree (a : BatchingAdapter) : Prop :=
  (∀ id, a.isTripSession id = true ↔ ∃ key options, a.mBatchingSessions.find? key = some options ∧
    options.batchingMode = .trip ∧ key.id = id) ∧
  (a.batchFullBit = true ↔ ∃ key options, a.mBatchingSessions.find? key = some options ∧
    options.batchingMode ≠ .noAutoReport)

theorem BatchingAdapter.tablesAgree_iff {a : BatchingAdapter} :
    a.TablesAgree ↔
      (∀ e ∈ a.mTripSessions.entries, ∃ e' ∈ a.mBatchingSessions.entries,
        e'.2.batchingMode = .trip ∧ e'.1.id = e.1) ∧
      (∀ e' ∈ a.mBatchingSessions.entries, e'.2.batchingMode = .trip →
        a.isTripSession e'.1.id = true) ∧
      (a.batchFullBit = true ↔ ∃ e ∈ a.mBatchingSessions.entries,
        e.2.batchingMode ≠ .noAutoReport) := by
  have htrips : (∀ id, a.isTripSession id = true ↔ ∃ key options,
      a.mBatchingSessions.find? key = some options ∧ options.batchingMode = .trip ∧ key.id = id) ↔
      (∀ e ∈ a.mTripSessions.entries, ∃ e' ∈ a.mBatchingSessions.entries,
        e'.2.batchingMode = .trip ∧ e'.1.id = e.1) ∧
      (∀ e' ∈ a.mBatchingSessions.entries, e'.2.batchingMode = .trip →
        a.isTripSession e'.1.id = true) := by
    simp only [isTripSession, isSome_iff_exists, find?_eq_some_iff]
    constructor
    · intro h
      refine ⟨fun e he ↦ ?_, fun e' he' hm ↦ (h _).mpr ⟨e'.1, e'.2, he', hm, rfl⟩⟩
      obtain ⟨key, options, he', hm, hid⟩ := (h e.1).mp ⟨e.2, he⟩
      exact ⟨(key, options), he', hm, hid⟩
    · rintro ⟨h, h'⟩ id
      constructor
      · rintro ⟨status, he⟩
        obtain ⟨e', he', hm, hid⟩ := h _ he
        exact ⟨e'.1, e'.2, he', hm, hid⟩
      · rintro ⟨key, options, he', hm, rfl⟩
        exact h' _ he' hm
  rw [TablesAgree, htrips, and_assoc]
  simp only [find?_eq_some_iff, Prod.exists]

instance (a : BatchingAdapter) : Decidable a.TablesAgree :=
  decidable_of_iff' _ BatchingAdapter.tablesAgree_iff

theorem Tables.Supported.tablesAgree {a : BatchingAdapter} {stopping : Prop}
    (h : a.tables.Supported stopping) (hs : ¬stopping) : a.TablesAgree := by
  have hauto : a.tables.Auto ↔ ∃ key options, a.mBatchingSessions.find? key = some options ∧
      options.batchingMode ≠ .noAutoReport := by
    simp [Tables.Auto, BatchingAdapter.tables]
  refine ⟨fun id ↦ (h.trips id).trans ?_, fun hbit ↦ ?_, fun hex ↦ h.registered (hauto.mpr hex)⟩
  · simp [BatchingAdapter.tables, ← exists_and_right, and_assoc]
  · exact hauto.mp ((h.needed hbit).resolve_right hs)

/-- In a run whose messages all keep the agreement of the tables, the tables agree as soon as all
messages are processed and all requests answered. -/
theorem tables_agree_of_run {adapter : BatchingAdapter} {hist : List (Item Event (Owned Call))}
    {s : BatchingSystem}
    (h : Run BatchingSystem.step BatchingSystem.NextKeepsTables (BatchingSystem.initial adapter)
      hist s) (hq : s.Quiet) : s.adapter.TablesAgree := by
  have hsupp : s.TablesSupported :=
    h.invariant (I := fun _ s ↦ s.TablesSupported)
      (BatchingSystem.tablesSupported_initial adapter) fun hsupp hg hs ↦ hsupp.step hg hs
  refine Tables.Supported.tablesAgree hsupp ?_
  rw [BatchingSystem.Stopping, hq.1, hq.2]
  simp

/-- A trip that becomes a routine session, a trip that the engine refuses, one that it does not, and
a session without automatic reports that is stopped. -/
theorem tables_agree_of_run_modes :
    ∃ hist s, Run BatchingSystem.step BatchingSystem.NextKeepsTables
      (BatchingSystem.initial sampleAdapter) hist s ∧ s.Quiet ∧
      s.adapter.mBatchingSessions.entries.map (fun e ↦ (e.1.id, e.2.batchingMode)) =
        [(3, .routine), (5, .trip)] ∧ s.adapter.TablesAgree := by
  obtain ⟨hist, s, hrun, hquiet, hsessions⟩ := Run.exists_of_runEvents BatchingSystem.step
    BatchingSystem.NextKeepsTables (BatchingSystem.initial sampleAdapter)
    [.startBatchingCommand 1 (sampleOptions 10 0 .noAutoReport), .proc,
      .returnToSender 0 .success 0, .proc, .startBatchingCommand 1 (sampleOptions 10 500 .trip),
      .proc, .returnToSender 0 .success 0, .proc, .travel 100, .reportCompletedTripsEvent 100,
      .proc, .updateBatchingOptionsCommand 1 3 (sampleOptions 10 0 .routine), .proc,
      .returnToSender 0 .success 0, .proc, .returnToSender 0 .success 0, .proc,
      .startBatchingCommand 1 (sampleOptions 10 500 .trip), .proc,
      .returnToSender 0 .generalFailure 0, .proc,
      .startBatchingCommand 1 (sampleOptions 10 500 .trip), .proc, .stopBatchingCommand 1 2,
      .proc, .returnToSender 0 .success 0, .returnToSender 0 .success 0, .proc, .proc]
    (fun _ s ↦ s.Quiet ∧ s.adapter.mBatchingSessions.entries.map
      (fun e ↦ (e.1.id, e.2.batchingMode)) = [(3, .routine), (5, .trip)]) (by decide +kernel)
  exact ⟨hist, s, hrun, hquiet, hsessions, tables_agree_of_run hrun hquiet⟩

/-- A second trip is entered into one table only; a trip that is stopped is taken out of one only;
and a session whose stop fails comes back in another mode, without the event it needs then. -/
theorem not_tables_agree :
    (∃ hist s, Run BatchingSystem.step (fun _ _ ↦ True) (BatchingSystem.initial sampleAdapter)
      hist s ∧ s.Quiet ∧ s.adapter.mTripSessions.entries.map Prod.fst = [2, 3] ∧
      s.adapter.mBatchingSessions.entries.map Prod.fst = [⟨1, 2⟩] ∧ ¬s.adapter.TablesAgree) ∧
    (∃ hist s, Run BatchingSystem.step (fun _ _ ↦ True) (BatchingSystem.initial sampleAdapter)
      hist s ∧ s.Quiet ∧ s.adapter.mTripSessions.entries = [] ∧
      s.adapter.mBatchingSessions.entries.map Prod.fst = [⟨1, 2⟩] ∧ ¬s.adapter.TablesAgree) ∧
    ∃ hist s, Run BatchingSystem.step (fun _ _ ↦ True) (BatchingSystem.initial sampleAdapter)
      hist s ∧ s.Quiet ∧ s.adapter.batchFullBit = false ∧
      s.adapter.mBatchingSessions.values = [.init] ∧ ¬s.adapter.TablesAgree := by
  refine ⟨?_, ?_, ?_⟩
  · exact Run.exists_of_decide
      [.startBatchingCommand 1 (sampleOptions 10 500 .trip), .proc, .returnToSender 0 .success 0,
        .proc, .startBatchingCommand 1 (sampleOptions 10 900 .trip), .proc,
        .returnToSender 0 .success 0, .proc] (by decide +kernel)
  · exact Run.exists_of_decide
      [.startBatchingCommand 1 (sampleOptions 10 500 .trip), .proc, .returnToSender 0 .success 0,
        .proc, .stopBatchingCommand 1 2, .proc, .returnToSender 0 .success 0, .proc]
      (by decide +kernel)
  · exact Run.exists_of_decide
      [.startBatchingCommand 1 (sampleOptions 10 0 .noAutoReport), .proc,
        .returnToSender 0 .success 0, .proc, .stopBatchingCommand 1 2, .proc,
        .returnToSender 0 .generalFailure 0, .proc] (by decide +kernel)

end MataDevice.Batching
