import MataDevice.Client.System

/-!
# The dictionaries of a client stay bijections

Sessions are bound to the ids of the framework in two dictionaries. For the sessions every call
looks whether an id is known before it binds it, and an update removes the old session first. The
loop of `locAPIAddGeofences` does neither: an id that is in use is bound to a new session while the
old one stays bound to the id. So the dictionaries are bijections along the runs in which geofences
are added under new ids only, all of them different.
-/

namespace MataDevice.Client

open List
open MataDevice.Tracking (LocationError TrackingOptions)
open Option (some_inj isSome_iff_exists)

/-- The session that an entity is about. -/
def SessionEntity.currentSession (entity : SessionEntity) : ℕ :=
  if entity.sessionMode = .onFix then entity.trackingSession else entity.batchingSession

/-- A dictionary whose sessions have been given out. -/
structure Issued {τ : Type} (d : BiDict τ) (issued : List ℕ) : Prop where
  bijective : d.Bijective
  mem_issued : ∀ session, d.hasSession session = true → session ∈ issued

namespace Issued

variable {τ : Type} {d : BiDict τ} {issued issued' : List ℕ} {id session : ℕ}

theorem mono (h : Issued d issued) (hsub : ∀ session ∈ issued, session ∈ issued') :
    Issued d issued' :=
  ⟨h.bijective, fun session hsession ↦ hsub session (h.mem_issued session hsession)⟩

theorem find?_eq_none (h : Issued d issued) (hsession : session ∉ issued) :
    d.mBackwardMap.find? session = none := by
  rw [← Option.not_isSome_iff_eq_none]
  exact fun hsome ↦ hsession (h.mem_issued session hsome)

theorem set_of_new (h : Issued d issued) (hid : d.hasId id = false) (hsession : session ∉ issued)
    (ext : τ) : Issued (d.set id session ext) (session :: issued) := by
  refine ⟨h.bijective.set_of_new (by simpa [BiDict.hasId] using hid) (h.find?_eq_none hsession) ext,
    fun session' hhas ↦ ?_⟩
  rw [BiDict.hasSession_set, Bool.or_eq_true, decide_eq_true_iff] at hhas
  rcases hhas with rfl | hhas
  · exact mem_cons_self
  · exact mem_cons_of_mem _ (h.mem_issued session' hhas)

theorem set_of_bound (h : Issued d issued) (hbound : d.mForwardMap.find? id = some session)
    (ext : τ) : Issued (d.set id session ext) issued := by
  refine ⟨h.bijective.set_of_bound hbound ext, fun session' hhas ↦ ?_⟩
  rw [BiDict.hasSession_set, Bool.or_eq_true, decide_eq_true_iff] at hhas
  rcases hhas with rfl | hhas
  · exact h.mem_issued session' (h.bijective.hasSession_of_find? hbound)
  · exact h.mem_issued session' hhas

theorem rmBySession (h : Issued d issued) (hhas : d.hasSession session = true) :
    Issued (d.rmBySession session) issued := by
  obtain ⟨id, hid⟩ := isSome_iff_exists.mp hhas
  refine ⟨h.bijective.rmBySession hid, fun session' hhas' ↦ ?_⟩
  rw [BiDict.hasSession_rmBySession, Bool.and_eq_true] at hhas'
  exact h.mem_issued session' hhas'.2

end Issued

/-! ## The loops over geofences -/

theorem Issued.setGeofences {issued : List ℕ} {geofences : List ((ℕ × ℕ) × ℕ)} {d : BiDict ℕ}
    (h : Issued d issued) (hids : (geofences.map fun g ↦ g.1.1).Nodup)
    (hnew : ∀ g ∈ geofences, d.hasId g.1.1 = false)
    (hsessions : (geofences.map Prod.snd).Nodup) (hfresh : ∀ g ∈ geofences, g.2 ∉ issued) :
    Issued (LocationAPIClientBase.setGeofences geofences d) (geofences.map Prod.snd ++ issued) := by
  induction geofences generalizing d issued with
  | nil => exact h
  | cons g geofences ih =>
    obtain ⟨⟨id, mask⟩, session⟩ := g
    rw [map_cons, nodup_cons] at hids hsessions
    rw [forall_mem_cons] at hnew hfresh
    have hset := h.set_of_new hnew.1 hfresh.1 mask
    refine (ih hset hids.2 ?_ hsessions.2 ?_).mono ?_
    · intro g hg
      have hne : g.1.1 ≠ id := fun heq ↦ hids.1 (mem_map.mpr ⟨g, hg, heq⟩)
      have hg' := hnew.2 g hg
      rw [BiDict.hasId, BiDict.set, OrderedMap.find?_insert, if_neg hne]
      exact hg'
    · intro g hg hmem
      rcases mem_cons.mp hmem with heq | hmem
      · exact hsessions.1 (mem_map.mpr ⟨g, hg, heq⟩)
      · exact hfresh.2 g hg hmem
    · intro session' hmem
      simp only [mem_append, mem_cons, map_cons] at hmem ⊢
      tauto

/-- What the body of a loop over known geofences keeps, the loop keeps. -/
theorem forKnown_invariant {α : Type} {P : BiDict ℕ → Prop} {f : BiDict ℕ → ℕ → ℕ → α → BiDict ℕ}
    (hf : ∀ d id session x, P d → d.mForwardMap.find? id = some session → P (f d id session x))
    (geofences : List (ℕ × α)) {d : BiDict ℕ} (hd : P d) :
    P (LocationAPIClientBase.forKnown f geofences d).2 := by
  induction geofences generalizing d with
  | nil => exact hd
  | cons g geofences ih =>
    obtain ⟨id, x⟩ := g
    rw [LocationAPIClientBase.forKnown]
    split_ifs with hpos
    · refine ih (hf d id _ x hd ?_)
      rw [BiDict.getSession] at hpos ⊢
      cases hsession : d.mForwardMap.find? id with
      | none =>
        rw [hsession] at hpos
        cases hpos
      | some session => rfl
    · exact ih hd

/-- Whether an output tells of an answer. -/
def Output.isAnswer : Output → Bool
  | .answered .. => true
  | _ => false

/-! ## The dictionary of the sessions -/

/-- The dictionary of the sessions: what is known of a session is about this session. -/
structure SessionDict (d : BiDict SessionEntity) (issued : List ℕ) : Prop
    extends Issued d issued where
  current : ∀ session entity, d.mExtMap.find? session = some entity →
    entity.currentSession = session
  zero_not_mem : 0 ∉ issued

namespace SessionDict

variable {d : BiDict SessionEntity} {issued : List ℕ} {id session : ℕ} {entity : SessionEntity}

theorem empty : SessionDict .empty [] := by
  refine ⟨⟨.empty, ?_⟩, ?_, by simp⟩
  · intro session hhas
    cases hhas
  · intro session entity hfind
    cases hfind

section

variable (h : SessionDict d issued)
include h

/-- Sessions are given out. -/
theorem issueAll {sessions : List ℕ}
    (hne : ∀ session ∈ sessions, session ≠ 0) : SessionDict d (sessions ++ issued) := by
  refine ⟨h.toIssued.mono fun _ ↦ mem_append_right _, h.current, fun hzero ↦ ?_⟩
  rcases mem_append.mp hzero with hzero | hzero
  · exact hne 0 hzero rfl
  · exact h.zero_not_mem hzero

/-- What is found under an id that is known. -/
theorem exists_of_hasId (hid : d.hasId id = true) :
    ∃ entity, d.getExtById .zero id = (entity, d) ∧
      d.mForwardMap.find? id = some entity.currentSession ∧
      d.hasSession entity.currentSession = true := by
  obtain ⟨session, hsession⟩ := isSome_iff_exists.mp hid
  have hhas := h.bijective.hasSession_of_find? hsession
  obtain ⟨entity, hentity⟩ := isSome_iff_exists.mp ((h.bijective.ext session).trans hhas)
  have hcurrent := h.current session entity hentity
  have hpos : session > 0 :=
    Nat.pos_of_ne_zero fun hzero ↦ h.zero_not_mem (hzero ▸ h.mem_issued session hhas)
  refine ⟨entity, ?_, hcurrent.symm ▸ hsession, hcurrent.symm ▸ hhas⟩
  simp only [BiDict.getExtById, hsession, hpos, if_true, hentity, Option.getD_some]

theorem issue (hzero : session ≠ 0) :
    SessionDict d (session :: issued) :=
  ⟨h.toIssued.mono fun _ ↦ mem_cons_of_mem _, h.current, by
    simpa [hzero.symm] using h.zero_not_mem⟩

theorem set_of_new (hid : d.hasId id = false)
    (hsession : session ∉ issued) (hzero : session ≠ 0) (hcurrent : entity.currentSession = session) :
    SessionDict (d.set id session entity) (session :: issued) := by
  refine ⟨h.toIssued.set_of_new hid hsession entity, ?_, (h.issue hzero).zero_not_mem⟩
  intro session' entity' hfind
  rw [BiDict.set, OrderedMap.find?_insert] at hfind
  split_ifs at hfind with heq
  · rw [heq, ← Option.some.inj hfind, hcurrent]
  · exact h.current session' entity' hfind

theorem rmBySession (hhas : d.hasSession session = true) :
    SessionDict (d.rmBySession session) issued := by
  refine ⟨h.toIssued.rmBySession hhas, ?_, h.zero_not_mem⟩
  intro session' entity' hfind
  rw [BiDict.rmBySession, OrderedMap.find?_erase] at hfind
  split_ifs at hfind with heq
  exact h.current session' entity' hfind

/-- A session is bound to the id in the place of another one, or again. -/
theorem rebind {old : ℕ} (hold : d.mForwardMap.find? id = some old)
    (hsession : session ∉ issued.filter (· ≠ old)) (hzero : session ≠ 0)
    (hcurrent : entity.currentSession = session) :
    SessionDict ((d.rmById id).set id session entity) (session :: issued) := by
  have hrm := h.rmBySession (h.bijective.hasSession_of_find? hold)
  have hid : (d.rmById id).hasId id = false := by
    rw [BiDict.hasId, BiDict.rmById, OrderedMap.find?_erase, if_pos rfl]
    rfl
  rw [h.bijective.rmById_eq hold] at hid ⊢
  -- the old session is not bound any more, whether it is the new one or not
  have hrm' : SessionDict (d.rmBySession old) (issued.filter (· ≠ old)) := by
    refine ⟨⟨hrm.bijective, ?_⟩, hrm.current, ?_⟩
    · intro session' hhas
      rw [BiDict.hasSession_rmBySession, Bool.and_eq_true] at hhas
      exact mem_filter.mpr ⟨h.mem_issued session' hhas.2, hhas.1⟩
    · exact fun hmem ↦ h.zero_not_mem (mem_of_mem_filter hmem)
  have hset := hrm'.set_of_new hid hsession hzero hcurrent
  refine ⟨hset.toIssued.mono ?_, hset.current, (h.issue hzero).zero_not_mem⟩
  intro session' hmem
  rcases mem_cons.mp hmem with rfl | hmem
  · exact mem_cons_self
  · exact mem_cons_of_mem _ (mem_of_mem_filter hmem)

end

theorem contract (h : SessionDict d (session :: issued)) (hmem : session ∈ issued) :
    SessionDict d issued := by
  refine ⟨h.toIssued.mono ?_, h.current, fun hzero ↦ h.zero_not_mem (mem_cons_of_mem _ hzero)⟩
  intro session' hmem'
  rcases mem_cons.mp hmem' with rfl | hmem'
  · exact hmem
  · exact hmem'

end SessionDict

/-! ## What a call about a session does -/

/-- One request object is pushed for the sessions, and the geofences are left as they are. -/
structure Pushed (c c' : LocationAPIClientBase) (kind : RequestKind) : Prop where
  queue : (c'.mRequestQueues .session).mQueue =
    (c.mRequestQueues .session).mQueue ++ [c.newRequest kind]
  other : ∀ type, type ≠ .session → c'.mRequestQueues type = c.mRequestQueues type
  geofences : c'.mGeofenceBiDict = c.mGeofenceBiDict

/-- Whether an update changes between tracking and batching. -/
def LocationAPIClientBase.switches (c : LocationAPIClientBase) (id : ℕ) (sessionMode : SessionMode) :
    Bool :=
  c.mLocationAPI && c.mSessionBiDict.hasId id &&
    decide (sessionMode = .onFix) !=
      decide ((c.mSessionBiDict.getExtById .zero id).1.sessionMode = .onFix)

/-- What the calls about sessions can do to the client. -/
inductive SessionCall (c : LocationAPIClientBase) : SessionEvent → LocationAPIClientBase → Prop
  | idle (e : SessionEvent) : SessionCall c e c
  /-- A session is started. -/
  | start {e : SessionEvent} {c' : LocationAPIClientBase} {id session : ℕ} {entity : SessionEntity}
    {kind : RequestKind} (hid : c.mSessionBiDict.hasId id = false) (hfresh : c.Fresh session)
    (hcurrent : entity.currentSession = session) (hpushed : Pushed c c' kind)
    (hdict : c'.mSessionBiDict = c.mSessionBiDict.set id session entity)
    (hissued : c'.issued = session :: c.issued)
    (hawaiting : c'.awaiting = c.awaiting ++ [⟨session, some (c.newRequest kind)⟩]) :
    SessionCall c e c'
  /-- A session is stopped or its locations are asked for. -/
  | call {e : SessionEvent} {c' : LocationAPIClientBase} {session : ℕ} {kind : RequestKind}
    (hsession : c.mSessionBiDict.hasSession session = true) (hpushed : Pushed c c' kind)
    (hdict : c'.mSessionBiDict = c.mSessionBiDict) (hissued : c'.issued = c.issued)
    (hawaiting : c'.awaiting = c.awaiting ++ [⟨session, some (c.newRequest kind)⟩]) :
    SessionCall c e c'
  /-- The options of a session are updated. -/
  | update {e : SessionEvent} {c' : LocationAPIClientBase} {id session : ℕ} {entity : SessionEntity}
    {kind : RequestKind} (hid : c.mSessionBiDict.mForwardMap.find? id = some session)
    (hcurrent : entity.currentSession = session) (hpushed : Pushed c c' kind)
    (hdict : c'.mSessionBiDict = (c.mSessionBiDict.rmById id).set id session entity)
    (hissued : c'.issued = c.issued)
    (hawaiting : c'.awaiting = c.awaiting ++ [⟨session, some (c.newRequest kind)⟩]) :
    SessionCall c e c'
  /-- A session is stopped and another one is started in its place. -/
  | switch {c' : LocationAPIClientBase} {id old session : ℕ} {sessionMode : SessionMode}
    {options : TrackingOptions} {entity : SessionEntity} {kind : RequestKind}
    (hswitches : c.switches id sessionMode = true)
    (hid : c.mSessionBiDict.mForwardMap.find? id = some old) (hfresh : c.Fresh session)
    (hcurrent : entity.currentSession = session) (hpushed : Pushed c c' kind)
    (hdict : c'.mSessionBiDict = (c.mSessionBiDict.rmById id).set id session entity)
    (hissued : c'.issued = session :: c.issued)
    (hawaiting : c'.awaiting =
      c.awaiting ++ [⟨old, none⟩, ⟨session, some (c.newRequest kind)⟩]) :
    SessionCall c (.locAPIUpdateSessionOptions id sessionMode options session) c'

namespace LocationAPIClientBase

variable {c : LocationAPIClientBase}

@[simp] theorem mRequestQueues_modifyQueue (type type' : RequestType)
    (f : RequestQueue Request → RequestQueue Request) :
    (c.modifyQueue type f).mRequestQueues type' =
      if type' = type then f (c.mRequestQueues type) else c.mRequestQueues type' := by
  simp only [modifyQueue, Function.update_apply]

@[simp] theorem mRequestQueues_pushRequest (type type' : RequestType) (kind : RequestKind) :
    (c.pushRequest type kind).mRequestQueues type' =
      if type' = type then (c.mRequestQueues type).push (c.newRequest kind)
      else c.mRequestQueues type' := by
  simp only [pushRequest, mRequestQueues_modifyQueue]

@[simp] theorem mRequestQueues_await (session : ℕ) (request : Option Request) :
    (c.await session request).mRequestQueues = c.mRequestQueues := rfl

@[simp] theorem mRequestQueues_issue (session : ℕ) :
    (c.issue session).mRequestQueues = c.mRequestQueues := rfl

@[simp] theorem mRequestQueues_rebind (id : ℕ) (entity : SessionEntity) (session : ℕ) :
    (c.rebind id entity session).mRequestQueues = c.mRequestQueues := rfl

end LocationAPIClientBase

/-- One object is pushed, also where the queue gets another session before it or after. -/
theorem pushed_of_queue {c c' : LocationAPIClientBase} {kind : RequestKind} (session : ℕ)
    (h : ∀ type, c'.mRequestQueues type =
      if type = .session then
        { (c.mRequestQueues .session).push (c.newRequest kind) with mSession := session }
      else c.mRequestQueues type)
    (hgeofences : c'.mGeofenceBiDict = c.mGeofenceBiDict) : Pushed c c' kind := by
  refine ⟨?_, ?_, hgeofences⟩
  · rw [h .session, if_pos rfl]
    rfl
  · intro type htype
    rw [h type, if_neg htype]

/-- One object is pushed, and nothing else is done to the queue. -/
theorem pushed_of_pushRequest {c c' : LocationAPIClientBase} {kind : RequestKind}
    (h : c'.mRequestQueues = (c.pushRequest .session kind).mRequestQueues)
    (hgeofences : c'.mGeofenceBiDict = c.mGeofenceBiDict) : Pushed c c' kind := by
  refine pushed_of_queue (c.mRequestQueues .session).mSession (fun type ↦ ?_) hgeofences
  rw [h, LocationAPIClientBase.mRequestQueues_pushRequest]
  rfl

namespace SessionCall

variable {c : LocationAPIClientBase}

theorem locAPIStartSession {session : ℕ} (hfresh : c.Fresh session) (e : SessionEvent) (id : ℕ)
    (sessionMode : SessionMode) (options : TrackingOptions) :
    SessionCall c e (c.locAPIStartSession id sessionMode options session).1 := by
  rw [LocationAPIClientBase.locAPIStartSession]
  split_ifs with hapi hid hmode
  · exact .idle e
  · exact .idle e
  · refine .start (eq_false_of_ne_true hid) hfresh ?_ (pushed_of_pushRequest rfl rfl) rfl rfl rfl
    simp [SessionEntity.currentSession, hmode]
  · refine .start (eq_false_of_ne_true hid) hfresh ?_ (pushed_of_queue session ?_ rfl)
      rfl rfl rfl
    · simp [SessionEntity.currentSession, hmode]
    · intro type
      simp only [LocationAPIClientBase.mRequestQueues_pushRequest,
        LocationAPIClientBase.mRequestQueues_modifyQueue,
        LocationAPIClientBase.mRequestQueues_await, LocationAPIClientBase.mRequestQueues_issue]
      split_ifs <;> rfl

theorem locAPIStopSession (h : SessionDict c.mSessionBiDict c.issued) (e : SessionEvent) (id : ℕ) :
    SessionCall c e (c.locAPIStopSession id).1 := by
  rw [LocationAPIClientBase.locAPIStopSession]
  split_ifs with hapi hid
  · exact .idle e
  · obtain ⟨entity, hget, -, hhas⟩ := h.exists_of_hasId hid
    rw [hget]
    rw [SessionEntity.currentSession] at hhas
    dsimp only
    split_ifs with hmode
    · rw [if_pos hmode] at hhas
      exact .call hhas (pushed_of_pushRequest rfl rfl) rfl rfl rfl
    · rw [if_neg hmode] at hhas
      exact .call hhas (pushed_of_pushRequest rfl rfl) rfl rfl rfl
  · exact .idle e

theorem locAPIGetBatchedLocations (h : SessionDict c.mSessionBiDict c.issued) (e : SessionEvent)
    (id count : ℕ) : SessionCall c e (c.locAPIGetBatchedLocations id count).1 := by
  rw [LocationAPIClientBase.locAPIGetBatchedLocations]
  split_ifs with hapi hid
  · exact .idle e
  · obtain ⟨entity, hget, -, hhas⟩ := h.exists_of_hasId hid
    rw [hget]
    rw [SessionEntity.currentSession] at hhas
    dsimp only
    split_ifs with hmode
    · rw [if_neg hmode] at hhas
      exact .call hhas (pushed_of_pushRequest rfl rfl) rfl rfl rfl
    · exact .idle e
  · exact .idle e

theorem locAPIUpdateSessionOptions (h : SessionDict c.mSessionBiDict c.issued) {session : ℕ}
    (hfresh : c.Fresh session) (id : ℕ) (sessionMode : SessionMode) (options : TrackingOptions) :
    SessionCall c (.locAPIUpdateSessionOptions id sessionMode options session)
      (c.locAPIUpdateSessionOptions id sessionMode options session).1 := by
  simp only [LocationAPIClientBase.locAPIUpdateSessionOptions]
  by_cases hapi : (!c.mLocationAPI) = true
  · rw [if_pos hapi]
    exact .idle _
  by_cases hid : c.mSessionBiDict.hasId id = true
  swap
  · rw [if_neg hapi, if_neg hid]
    exact .idle _
  obtain ⟨entity, hget, hbound, -⟩ := h.exists_of_hasId hid
  have hswitches : c.switches id sessionMode =
      (decide (sessionMode = .onFix) != decide (entity.sessionMode = .onFix)) := by
    simp [LocationAPIClientBase.switches, hget, hid, show c.mLocationAPI = true by simpa using hapi]
  rw [if_neg hapi, if_pos hid, hget]
  rw [SessionEntity.currentSession] at hbound
  by_cases hnew : sessionMode = .onFix
  · by_cases hmode : entity.sessionMode = .onFix
    · rw [if_pos hmode] at hbound
      rw [if_pos hnew, if_pos hmode]
      refine .update hbound ?_ (pushed_of_pushRequest rfl rfl) rfl rfl rfl
      simp [SessionEntity.currentSession, hnew]
    · rw [if_neg hmode] at hbound
      rw [if_pos hnew, if_neg hmode]
      refine .switch ?_ hbound hfresh ?_ (pushed_of_queue 0 ?_ rfl) rfl rfl
        (append_assoc ..)
      · rw [hswitches]
        simp [hnew, hmode]
      · simp [SessionEntity.currentSession, hnew]
      · intro type
        simp only [LocationAPIClientBase.mRequestQueues_rebind,
          LocationAPIClientBase.mRequestQueues_await, LocationAPIClientBase.mRequestQueues_issue,
          LocationAPIClientBase.mRequestQueues_modifyQueue,
          LocationAPIClientBase.mRequestQueues_pushRequest]
        split_ifs <;> rfl
  · by_cases hmode : entity.sessionMode = .onFix
    · rw [if_pos hmode] at hbound
      rw [if_neg hnew, if_pos hmode]
      refine .switch ?_ hbound hfresh ?_ (pushed_of_queue session ?_ rfl) rfl rfl
        (append_assoc ..)
      · rw [hswitches]
        simp [hnew, hmode]
      · simp [SessionEntity.currentSession, hnew]
      · intro type
        simp only [LocationAPIClientBase.mRequestQueues_rebind,
          LocationAPIClientBase.mRequestQueues_await, LocationAPIClientBase.mRequestQueues_issue,
          LocationAPIClientBase.mRequestQueues_modifyQueue,
          LocationAPIClientBase.mRequestQueues_pushRequest]
        split_ifs <;> rfl
    · rw [if_neg hmode] at hbound
      rw [if_neg hnew, if_neg hmode]
      refine .update hbound ?_ (pushed_of_pushRequest rfl rfl) rfl rfl rfl
      simp [SessionEntity.currentSession, hnew]

end SessionCall

theorem SessionCall.sessionDict {c c' : LocationAPIClientBase} {e : SessionEvent}
    (hcall : SessionCall c e c') (h : SessionDict c.mSessionBiDict c.issued) :
    SessionDict c'.mSessionBiDict c'.issued := by
  cases hcall with
  | idle => exact h
  | start hid hfresh hcurrent hpushed hdict hissued hawaiting =>
    rw [hdict, hissued]
    exact h.set_of_new hid hfresh.2 hfresh.1 hcurrent
  | call hsession hpushed hdict hissued hawaiting =>
    rw [hdict, hissued]
    exact h
  | @update _ _ id session entity kind hid hcurrent hpushed hdict hissued hawaiting =>
    rw [hdict, hissued]
    have hmem := h.mem_issued session (h.bijective.hasSession_of_find? hid)
    refine (h.rebind hid (by simp) ?_ hcurrent).contract hmem
    exact fun hzero ↦ h.zero_not_mem (hzero ▸ hmem)
  | switch hswitches hid hfresh hcurrent hpushed hdict hissued hawaiting =>
    rw [hdict, hissued]
    exact h.rebind hid (fun hmem ↦ hfresh.2 (mem_of_mem_filter hmem)) hfresh.1 hcurrent

/-! ## The dictionaries along a run -/

namespace LocationAPIClientBase

structure DictsOk (c : LocationAPIClientBase) : Prop where
  sessions : SessionDict c.mSessionBiDict c.issued
  geofences : Issued c.mGeofenceBiDict c.issued

variable {c : LocationAPIClientBase}

theorem dictsOk_initial (mLocationAPI : Bool) : (initial mLocationAPI).DictsOk :=
  ⟨.empty, .empty, fun _ hhas ↦ by cases hhas⟩

/-- The clients that differ in their queues only. -/
def SameTables (c c' : LocationAPIClientBase) : Prop :=
  c' = { c with mRequestQueues := c'.mRequestQueues }

theorem sameTables_getRequestOfQueue (session : ℕ) :
    SameTables c (c.getRequestOfQueue session).2 := by
  rw [getRequestOfQueue]
  split_ifs <;> rfl

/-- Nothing but the queues is changed when a request is looked for. -/
theorem sameTables_getRequestBySession (session : ℕ) :
    SameTables c (c.getRequestBySession session).2 := by
  have h := sameTables_getRequestOfQueue (c := c) session
  rw [getRequestBySession]
  generalize c.getRequestOfQueue session = found at h ⊢
  obtain ⟨request, c'⟩ := found
  cases request with
  | some request => exact h
  | none =>
    dsimp only at h ⊢
    split_ifs
    · rw [h]
      rfl
    · exact h

variable {c' : LocationAPIClientBase}

theorem DictsOk.of_sameTables (h : c.DictsOk) (hsame : SameTables c c') : c'.DictsOk := by
  rw [hsame]
  exact ⟨h.sessions, h.geofences⟩

theorem DictsOk.removeSession (h : c.DictsOk) (session : ℕ) : (c.removeSession session).DictsOk := by
  rw [LocationAPIClientBase.removeSession]
  split_ifs with hhas
  · exact ⟨h.sessions.rmBySession hhas, h.geofences⟩
  · exact h

theorem DictsOk.onResponse (h : c.DictsOk) (request : Request) (error : LocationError) (id : ℕ) :
    (c.onResponse request error id).1.DictsOk := by
  rw [LocationAPIClientBase.onResponse]
  split
  · exact h
  · exact h
  · exact h
  · exact h
  · exact h
  · dsimp only
    split_ifs
    · exact h.removeSession id
    · exact h

theorem DictsOk.onResponseCb (h : c.DictsOk) (call : Awaited) (error : LocationError) :
    (c.onResponseCb call error).1.DictsOk := by
  have hsame := h.of_sameTables (sameTables_getRequestBySession call.session)
  rw [LocationAPIClientBase.onResponseCb]
  generalize c.getRequestBySession call.session = found at hsame ⊢
  obtain ⟨request, c'⟩ := found
  cases request with
  | none => exact hsame
  | some request => exact hsame.onResponse request error call.session

variable {e : SessionEvent} {outs : List Output}

/-- The calls about sessions do not touch the geofences. -/
theorem geofences_of_sessionCall (h : SessionCall c e c') :
    c'.mGeofenceBiDict = c.mGeofenceBiDict ∧ ∀ session ∈ c.issued, session ∈ c'.issued := by
  cases h with
  | idle => exact ⟨rfl, fun _ ↦ id⟩
  | start hid hfresh hcurrent hpushed hdict hissued hawaiting
  | switch hswitches hid hfresh hcurrent hpushed hdict hissued hawaiting =>
    exact ⟨hpushed.geofences, hissued ▸ fun _ ↦ mem_cons_of_mem _⟩
  | call hsession hpushed hdict hissued hawaiting
  | update hid hcurrent hpushed hdict hissued hawaiting =>
    exact ⟨hpushed.geofences, hissued ▸ fun _ ↦ id⟩

theorem DictsOk.of_sessionCall (h : c.DictsOk) (hcall : SessionCall c e c') : c'.DictsOk := by
  obtain ⟨hgeofences, hissued⟩ := geofences_of_sessionCall hcall
  refine ⟨hcall.sessionDict h.sessions, ?_⟩
  rw [hgeofences]
  exact h.geofences.mono hissued

theorem quiet_of_locAPIStartSession (id : ℕ) (sessionMode : SessionMode) (options : TrackingOptions)
    (session : ℕ) :
    ∀ out ∈ (c.locAPIStartSession id sessionMode options session).2, out.isAnswer = false := by
  simp only [locAPIStartSession]
  split_ifs <;> simp [Output.isAnswer]

theorem quiet_of_locAPIStopSession (id : ℕ) :
    ∀ out ∈ (c.locAPIStopSession id).2, out.isAnswer = false := by
  simp only [locAPIStopSession]
  split_ifs <;> simp [Output.isAnswer]

theorem quiet_of_locAPIUpdateSessionOptions (id : ℕ) (sessionMode : SessionMode)
    (options : TrackingOptions) (session : ℕ) :
    ∀ out ∈ (c.locAPIUpdateSessionOptions id sessionMode options session).2,
      out.isAnswer = false := by
  simp only [locAPIUpdateSessionOptions]
  split_ifs <;> simp [Output.isAnswer]

theorem quiet_of_locAPIGetBatchedLocations (id count : ℕ) :
    ∀ out ∈ (c.locAPIGetBatchedLocations id count).2, out.isAnswer = false := by
  simp only [locAPIGetBatchedLocations]
  split_ifs <;> simp [Output.isAnswer]

/-- What a step about sessions is: a call, or the answer to one. -/
theorem sessionStep_cases (h : SessionDict c.mSessionBiDict c.issued) (hs : c.sessionStep e = some (c', outs)) :
    (SessionCall c e c' ∧ ∀ out ∈ outs, out.isAnswer = false) ∨
      ∃ i error call, e = .onResponseCb i error ∧ c.awaiting[i]? = some call ∧
        (c', outs) = { c with awaiting := c.awaiting.eraseIdx i }.onResponseCb call error := by
  cases e with
  | locAPIStartSession id sessionMode options session =>
    rw [sessionStep] at hs
    split_ifs at hs with hfresh
    have hcall := SessionCall.locAPIStartSession hfresh
      (.locAPIStartSession id sessionMode options session) id sessionMode options
    have hquiet := quiet_of_locAPIStartSession (c := c) id sessionMode options session
    rw [some_inj.mp hs] at hcall hquiet
    exact Or.inl ⟨hcall, hquiet⟩
  | locAPIStopSession id =>
    have hcall := SessionCall.locAPIStopSession h (.locAPIStopSession id) id
    have hquiet := quiet_of_locAPIStopSession (c := c) id
    rw [some_inj.mp hs] at hcall hquiet
    exact Or.inl ⟨hcall, hquiet⟩
  | locAPIUpdateSessionOptions id sessionMode options session =>
    rw [sessionStep] at hs
    split_ifs at hs with hfresh
    have hcall := SessionCall.locAPIUpdateSessionOptions h hfresh id sessionMode options
    have hquiet := quiet_of_locAPIUpdateSessionOptions (c := c) id sessionMode options session
    rw [some_inj.mp hs] at hcall hquiet
    exact Or.inl ⟨hcall, hquiet⟩
  | locAPIGetBatchedLocations id count =>
    have hcall := SessionCall.locAPIGetBatchedLocations h (.locAPIGetBatchedLocations id count) id count
    have hquiet := quiet_of_locAPIGetBatchedLocations (c := c) id count
    rw [some_inj.mp hs] at hcall hquiet
    exact Or.inl ⟨hcall, hquiet⟩
  | onResponseCb i error =>
    rw [sessionStep] at hs
    split at hs
    · cases hs
    · next call hcall =>
      split_ifs at hs
      exact Or.inr ⟨i, error, call, rfl, hcall, (some_inj.mp hs).symm⟩

theorem DictsOk.sessionStep (h : c.DictsOk) (hs : c.sessionStep e = some (c', outs)) : c'.DictsOk := by
  rcases sessionStep_cases h.sessions hs with ⟨hcall, -⟩ | ⟨i, error, call, -, -, heq⟩
  · exact h.of_sessionCall hcall
  · have hresult : DictsOk { c with awaiting := c.awaiting.eraseIdx i } := ⟨h.sessions, h.geofences⟩
    have hcb := hresult.onResponseCb call error
    rw [← heq] at hcb
    exact hcb

theorem sessionDict_completeTrips {sessions issued : List ℕ} {d : BiDict SessionEntity}
    (h : SessionDict d issued) : SessionDict (completeTrips sessions d).2 issued := by
  induction sessions generalizing d with
  | nil => exact h
  | cons session sessions ih =>
    rw [completeTrips]
    split_ifs with hhas
    · exact ih (h.rmBySession hhas.1)
    · exact ih h

theorem DictsOk.beforeBatchingStatusCb (h : c.DictsOk) (tripCompleted : Bool)
    (tripCompletedList : List ℕ) :
    (c.beforeBatchingStatusCb tripCompleted tripCompletedList).1.DictsOk := by
  rw [LocationAPIClientBase.beforeBatchingStatusCb]
  split_ifs
  · exact ⟨sessionDict_completeTrips h.sessions, h.geofences⟩
  · exact h

theorem DictsOk.callGeofences {α : Type} (h : c.DictsOk) (kind : RequestKind)
    (call : List ℕ → ApiCall) {f : BiDict ℕ → ℕ → ℕ → α → BiDict ℕ}
    (hf : ∀ d id session x, Issued d c.issued → d.mForwardMap.find? id = some session →
      Issued (f d id session x) c.issued) (geofences : List (ℕ × α)) :
    (c.callGeofences kind call f geofences).1.DictsOk := by
  have hdict := forKnown_invariant (P := fun d ↦ Issued d c.issued) hf geofences h.geofences
  simp only [LocationAPIClientBase.callGeofences]
  split_ifs
  · exact ⟨h.sessions, hdict⟩
  · exact ⟨h.sessions, hdict⟩
  · exact h

/-- Geofences are added under new ids only, all of them different. -/
def NewIds (c : LocationAPIClientBase) : Event → Prop
  | .locAPIAddGeofences geofences (some _) => c.mLocationAPI = true →
    (geofences.map Prod.fst).Nodup ∧ ∀ g ∈ geofences, c.mGeofenceBiDict.hasId g.1 = false
  | _ => True

theorem DictsOk.locAPIAddGeofences (h : c.DictsOk) {geofences : List (ℕ × ℕ)}
    {sessions : Option (List ℕ)} (hg : c.NewIds (.locAPIAddGeofences geofences sessions))
    (hfresh : c.FreshSessions geofences sessions) :
    (c.locAPIAddGeofences geofences sessions).1.DictsOk := by
  by_cases hapi : c.mLocationAPI = true
  swap
  · simp only [LocationAPIClientBase.locAPIAddGeofences, hapi, Bool.not_false, if_true]
    exact h
  cases sessions with
  | none =>
    simp only [LocationAPIClientBase.locAPIAddGeofences, hapi, Bool.not_true, Bool.false_eq_true,
      if_false]
    split_ifs
    · exact ⟨h.sessions, h.geofences⟩
    · exact h
  | some sessions =>
    obtain ⟨hids, hnew⟩ := hg hapi
    obtain ⟨hlen, hnodup, hfresh⟩ := hfresh sessions rfl
    have hfst : (geofences.zip sessions).map Prod.fst = geofences :=
      map_fst_zip hlen.ge
    have hsnd : (geofences.zip sessions).map Prod.snd = sessions :=
      map_snd_zip hlen.le
    rw [← hfst, map_map] at hids
    have hset : Issued (setGeofences (geofences.zip sessions) c.mGeofenceBiDict)
        ((geofences.zip sessions).map Prod.snd ++ c.issued) :=
      h.geofences.setGeofences hids (fun g hmem ↦ hnew g.1 (of_mem_zip hmem).1)
        (hsnd.symm ▸ hnodup) (fun g hmem ↦ (hfresh g.2 (of_mem_zip hmem).2).2)
    rw [hsnd] at hset
    have hsessions := h.sessions.issueAll fun session hmem ↦ (hfresh session hmem).1
    simp only [LocationAPIClientBase.locAPIAddGeofences, hapi, Bool.not_true, Bool.false_eq_true,
      if_false]
    split_ifs
    · exact ⟨hsessions, hset⟩
    · exact ⟨hsessions, hset⟩

/-- A step keeps what its parts keep: the steps about sessions, the completed trips, the geofences
added, and the loops over known geofences, if what they do to one of them keeps a property of the
dictionary. -/
theorem step_keeps {Ok : LocationAPIClientBase → Prop} {P : BiDict ℕ → Prop} {e : Event} (h : Ok c)
    (hsession : ∀ e, c.sessionStep e = some (c', outs) → Ok c')
    (htrips : ∀ tripCompleted tripCompletedList,
      Ok (c.beforeBatchingStatusCb tripCompleted tripCompletedList).1)
    (hadd : ∀ geofences sessions, e = .locAPIAddGeofences geofences sessions →
      c.FreshSessions geofences sessions → Ok (c.locAPIAddGeofences geofences sessions).1)
    (hcall : ∀ {α : Type} kind call {f : BiDict ℕ → ℕ → ℕ → α → BiDict ℕ},
      (∀ d id session x, P d → d.mForwardMap.find? id = some session → P (f d id session x)) →
      ∀ geofences, Ok (c.callGeofences kind call f geofences).1)
    (hrm : ∀ d id session, P d → d.mForwardMap.find? id = some session → P (d.rmBySession session))
    (hset : ∀ d id session mask, P d → d.mForwardMap.find? id = some session →
      P (d.set id session mask))
    (hs : c.step e = some (c', outs)) : Ok c' := by
  have hremove : ∀ ids, Ok (c.locAPIRemoveGeofences ids).1 := fun ids ↦
    hcall _ _ (fun d id session _ hd hid ↦ hrm d id session hd hid) _
  cases e with
  | session e => exact hsession e hs
  | batchingStatusCb tripCompleted tripCompletedList =>
    have hok := htrips tripCompleted tripCompletedList
    rwa [some_inj.mp hs] at hok
  | locAPIAddGeofences geofences sessions =>
    rw [LocationAPIClientBase.step] at hs
    split_ifs at hs with hfresh
    have hok := hadd geofences sessions rfl hfresh
    rwa [some_inj.mp hs] at hok
  | locAPIRemoveGeofences ids =>
    have hok := hremove ids
    rwa [some_inj.mp hs] at hok
  | locAPIModifyGeofences geofences =>
    have hok : Ok (c.locAPIModifyGeofences geofences).1 := hcall _ _ hset geofences
    rwa [some_inj.mp hs] at hok
  | locAPIPauseGeofences ids =>
    have hok : Ok (c.locAPIPauseGeofences ids).1 := hcall _ _ (fun d id session _ hd _ ↦ hd) _
    rwa [some_inj.mp hs] at hok
  | locAPIResumeGeofences geofences =>
    have hok : Ok (c.locAPIResumeGeofences geofences).1 := by
      refine hcall _ _ (fun d id session mask hd hid ↦ ?_) _
      cases mask with
      | none => exact hd
      | some mask => exact hset d id session mask hd hid
    rwa [some_inj.mp hs] at hok
  | locAPIRemoveAllGeofences =>
    have hok : Ok c.locAPIRemoveAllGeofences.1 := by
      rw [LocationAPIClientBase.locAPIRemoveAllGeofences]
      split_ifs
      · exact h
      · exact hremove _
    rwa [some_inj.mp hs] at hok

theorem DictsOk.step (h : c.DictsOk) {e : Event} (hg : c.NewIds e)
    (hs : c.step e = some (c', outs)) : c'.DictsOk :=
  step_keeps h (fun _ ↦ h.sessionStep) h.beforeBatchingStatusCb
    (fun _ _ he ↦ h.locAPIAddGeofences (he ▸ hg)) h.callGeofences
    (fun _ _ _ hd hid ↦ hd.rmBySession (hd.bijective.hasSession_of_find? hid))
    (fun _ _ _ mask hd hid ↦ hd.set_of_bound hid mask) hs

instance : DecidablePred c.NewIds
  | .locAPIAddGeofences geofences (some _) => inferInstanceAs (Decidable (_ → _))
  | .locAPIAddGeofences _ none | .session _ | .batchingStatusCb .. | .locAPIRemoveGeofences _
  | .locAPIModifyGeofences _ | .locAPIPauseGeofences _ | .locAPIResumeGeofences _
  | .locAPIRemoveAllGeofences => .isTrue trivial

end LocationAPIClientBase

/-- In every state of a run in which geofences are added under new ids only, each dictionary is a
bijection: the map from sessions to ids is the inverse of the map from ids to sessions, what else is
known is known of the same sessions, and every known id is found again by its session. -/
theorem dictionaries_bijective_of_run {mLocationAPI : Bool} {hist : List (Item Event Output)}
    {c : LocationAPIClientBase}
    (h : Run LocationAPIClientBase.step LocationAPIClientBase.NewIds
      (LocationAPIClientBase.initial mLocationAPI) hist c) :
    c.mGeofenceBiDict.Bijective ∧ c.mSessionBiDict.Bijective ∧
      (∀ id, c.mGeofenceBiDict.hasId id = true →
        c.mGeofenceBiDict.getId (c.mGeofenceBiDict.getSession id) = id) ∧
      ∀ id, c.mSessionBiDict.hasId id = true →
        c.mSessionBiDict.getId (c.mSessionBiDict.getSession id) = id := by
  have hok : c.DictsOk :=
    h.invariant (I := fun _ c ↦ c.DictsOk) (LocationAPIClientBase.dictsOk_initial _)
      fun hok hg hs ↦ hok.step hg hs
  have hgeofences := hok.geofences.bijective
  have hsessions := hok.sessions.bijective
  exact ⟨hgeofences, hsessions, fun _ hid ↦ hgeofences.getId_getSession hid,
    fun _ hid ↦ hsessions.getId_getSession hid⟩

/-- Options for the runs below. -/
def sampleOptions : TrackingOptions := .zero

/-- Geofences are added, modified and removed, and a session is switched and completed. -/
theorem dictionaries_bijective_of_run_all :
    ∃ hist c, Run LocationAPIClientBase.step LocationAPIClientBase.NewIds
      (LocationAPIClientBase.initial true) hist c ∧ c.mGeofenceBiDict.hasId 7 = true ∧
        c.mSessionBiDict.hasId 5 = true ∧ c.mGeofenceBiDict.Bijective ∧
        c.mSessionBiDict.Bijective := by
  obtain ⟨hist, c, hrun, hc⟩ := Run.exists_of_runEvents LocationAPIClientBase.step
    LocationAPIClientBase.NewIds (LocationAPIClientBase.initial true)
    [.locAPIAddGeofences [(7, 1), (8, 3)] (some [2, 3]), .locAPIModifyGeofences [(7, 2)],
      .locAPIRemoveGeofences [8, 8], .locAPIAddGeofences [(8, 1)] (some [4]),
      .session (.locAPIStartSession 5 .onFix sampleOptions 10),
      .session (.locAPIStartSession 6 .onTripCompleted sampleOptions 11),
      .session (.locAPIUpdateSessionOptions 5 .onFull sampleOptions 12),
      .batchingStatusCb true [11], .session (.onResponseCb 1 .success),
      .locAPIResumeGeofences [(7, some 1), (9, some 1)]]
    (fun _ c ↦ c.mGeofenceBiDict.hasId 7 && c.mSessionBiDict.hasId 5) (by decide +kernel)
  obtain ⟨h7, h5⟩ := Bool.and_eq_true_iff.mp hc
  obtain ⟨hgeofences, hsessions, -⟩ := dictionaries_bijective_of_run hrun
  exact ⟨hist, c, hrun, h7, h5, hgeofences, hsessions⟩

/-- A geofence is added under an id that is in use: the old session stays bound to the id. -/
theorem not_dictionaries_bijective :
    ∃ hist c, Run LocationAPIClientBase.step (fun _ _ ↦ True)
      (LocationAPIClientBase.initial true) hist c ∧ ¬c.mGeofenceBiDict.Bijective ∧
        c.mGeofenceBiDict.getId 2 = 7 ∧ c.mGeofenceBiDict.getSession 7 = 3 := by
  obtain ⟨hist, c, hrun, hback, hforward⟩ := Run.exists_of_runEvents LocationAPIClientBase.step
    (fun _ _ ↦ True) (LocationAPIClientBase.initial true)
    [.locAPIAddGeofences [(7, 1)] (some [2]), .locAPIAddGeofences [(7, 1)] (some [3])]
    (fun _ c ↦ c.mGeofenceBiDict.mBackwardMap.find? 2 = some 7 ∧
      c.mGeofenceBiDict.mForwardMap.find? 7 = some 3) (by decide +kernel)
  refine ⟨hist, c, hrun, fun hbijective ↦ ?_, ?_, ?_⟩
  · rw [(hbijective.inverse 7 2).mp hback] at hforward
    cases hforward
  · rw [BiDict.getId, hback]
    rfl
  · rw [BiDict.getSession, hforward]
    rfl

end MataDevice.Client
