import MataDevice.Client.Dictionaries
import MataDevice.Client.GeofenceOptions

/-!
# Removing all geofences

`locAPIRemoveAllGeofences` takes the sessions of the dictionary and hands them to
`locAPIRemoveGeofences`, which takes ids and looks up their sessions. A geofence goes only if its id
is the session of some geofence. So all of them go exactly when the sessions in the dictionary are
ids in it, too; then the loop walks through all the ids, since there are no more of them than
sessions.

This is about all runs, in some of which a geofence is added under an id that is in use, so that two
sessions lead to the id. What holds in all of them is that the session of an id leads back to it.
-/

namespace MataDevice.Client

open List
open MataDevice.Tracking (LocationError TrackingOptions)
open OrderedMap (find?_insert find?_erase find?_eq_some_iff)

/-! ## What holds of the dictionary in every run -/

/-- A dictionary in which the session of an id leads back to it. -/
structure Linked (d : BiDict ℕ) (issued : List ℕ) : Prop where
  back : ∀ id session, d.mForwardMap.find? id = some session →
    d.mBackwardMap.find? session = some id
  ext : ∀ session, (d.mExtMap.find? session).isSome = d.hasSession session
  mem_issued : ∀ session, d.hasSession session = true → session ∈ issued

namespace Linked

variable {d : BiDict ℕ} {issued issued' : List ℕ} {id session : ℕ}

theorem empty : Linked .empty issued where
  back _ _ h := by cases h
  ext _ := rfl
  mem_issued _ h := by cases h

variable (h : Linked d issued)
include h

theorem mono (hsub : ∀ session ∈ issued, session ∈ issued') :
    Linked d issued' :=
  ⟨h.back, h.ext, fun session hsession ↦ hsub session (h.mem_issued session hsession)⟩

theorem hasSession_of_find? (hid : d.mForwardMap.find? id = some session) :
    d.hasSession session = true := by
  rw [BiDict.hasSession, h.back id session hid]
  rfl

/-- A new session is bound to any id. -/
theorem set_of_new (id : ℕ) (hsession : session ∉ issued) (ext : ℕ) :
    Linked (d.set id session ext) (session :: issued) := by
  refine ⟨fun id' session' hid' ↦ ?_, fun session' ↦ ?_, fun session' hhas ↦ ?_⟩
  · simp only [BiDict.set, find?_insert] at hid' ⊢
    split_ifs at hid' with hi
    · rw [if_pos (Option.some_inj.mp hid').symm, hi]
    · have hne : session' ≠ session := by
        rintro rfl
        exact hsession (h.mem_issued session' (h.hasSession_of_find? hid'))
      rw [if_neg hne]
      exact h.back id' session' hid'
  · have hext := h.ext session'
    simp only [BiDict.set, BiDict.hasSession, find?_insert] at hext ⊢
    split_ifs
    · rfl
    · exact hext
  · rw [BiDict.hasSession_set, Bool.or_eq_true, decide_eq_true_iff] at hhas
    rcases hhas with rfl | hhas
    · exact mem_cons_self
    · exact mem_cons_of_mem _ (h.mem_issued session' hhas)

section

variable (hbound : d.mForwardMap.find? id = some session)
include hbound

/-- What is known of a session is replaced. -/
theorem set_of_bound (ext : ℕ) : Linked (d.set id session ext) issued := by
  have hback := h.back id session hbound
  refine ⟨fun id' session' hid' ↦ ?_, fun session' ↦ ?_, fun session' hhas ↦ ?_⟩
  · simp only [BiDict.set, find?_insert] at hid' ⊢
    split_ifs at hid' with hi
    · rw [if_pos (Option.some_inj.mp hid').symm, hi]
    · split_ifs with hs
      · rw [← hback, ← hs]
        exact h.back id' session' hid'
      · exact h.back id' session' hid'
  · have hext := h.ext session'
    simp only [BiDict.set, BiDict.hasSession, find?_insert] at hext ⊢
    split_ifs
    · rfl
    · exact hext
  · rw [BiDict.hasSession_set, Bool.or_eq_true, decide_eq_true_iff] at hhas
    rcases hhas with rfl | hhas
    · exact h.mem_issued _ (h.hasSession_of_find? hbound)
    · exact h.mem_issued session' hhas

theorem find?_mForwardMap_rmBySession (id' : ℕ) :
    (d.rmBySession session).mForwardMap.find? id' =
      if id' = id then none else d.mForwardMap.find? id' := by
  rw [BiDict.rmBySession, h.back id session hbound]
  exact find?_erase id'

theorem rmBySession :
    Linked (d.rmBySession session) issued := by
  have hback := h.back id session hbound
  refine ⟨fun id' session' hid' ↦ ?_, fun session' ↦ ?_, fun session' hhas ↦ ?_⟩
  · rw [h.find?_mForwardMap_rmBySession hbound] at hid'
    split_ifs at hid' with hi
    have hback' := h.back id' session' hid'
    have hne : session' ≠ session := by
      rintro rfl
      rw [hback] at hback'
      exact hi (Option.some_inj.mp hback').symm
    rw [BiDict.rmBySession, find?_erase, if_neg hne]
    exact hback'
  · have hext := h.ext session'
    simp only [BiDict.rmBySession, BiDict.hasSession, find?_erase] at hext ⊢
    split_ifs
    · rfl
    · exact hext
  · rw [BiDict.hasSession_rmBySession, Bool.and_eq_true] at hhas
    exact h.mem_issued session' hhas.2

end

theorem setGeofences {geofences : List ((ℕ × ℕ) × ℕ)}
    (hsessions : (geofences.map Prod.snd).Nodup) (hfresh : ∀ g ∈ geofences, g.2 ∉ issued) :
    Linked (LocationAPIClientBase.setGeofences geofences d) (geofences.map Prod.snd ++ issued) := by
  induction geofences generalizing d issued with
  | nil => exact h
  | cons g geofences ih =>
    obtain ⟨⟨id, mask⟩, session⟩ := g
    rw [map_cons, nodup_cons] at hsessions
    rw [forall_mem_cons] at hfresh
    refine (ih (h.set_of_new id hfresh.1 mask) hsessions.2 fun g hg hmem ↦ ?_).mono fun _ hmem ↦ ?_
    · rcases mem_cons.mp hmem with heq | hmem
      · exact hsessions.1 (mem_map.mpr ⟨g, hg, heq⟩)
      · exact hfresh.2 g hg hmem
    · simp only [mem_append, mem_cons, map_cons] at hmem ⊢
      tauto

end Linked

namespace LocationAPIClientBase

variable {c : LocationAPIClientBase}

/-- What the calls about sessions and their answers leave alone -/
def frame (c : LocationAPIClientBase) : Bool × ℕ × BiDict ℕ :=
  (c.mLocationAPI, (c.mRequestQueues .geofence).mSession, c.mGeofenceBiDict)

theorem frame_popRequest {type : RequestType} (htype : type ≠ .geofence) :
    (c.popRequest type).2.frame = c.frame := by
  have hqueue : (c.popRequest type).2.mRequestQueues .geofence = c.mRequestQueues .geofence :=
    Function.update_of_ne (Ne.symm htype) ..
  rw [frame, hqueue]
  rfl

theorem frame_getRequestBySession (session : ℕ) :
    (c.getRequestBySession session).2.frame = c.frame := by
  have hqueue : (c.getRequestOfQueue session).2.frame = c.frame := by
    rw [getRequestOfQueue]
    split_ifs
    · exact frame_popRequest (by decide)
    · exact frame_popRequest (by decide)
    · rfl
  rw [getRequestBySession]
  generalize c.getRequestOfQueue session = found at hqueue ⊢
  obtain ⟨request, c'⟩ := found
  cases request with
  | some request => exact hqueue
  | none =>
    dsimp only at hqueue ⊢
    split_ifs
    · exact (frame_popRequest (by decide)).trans hqueue
    · exact hqueue

theorem removeSession_cases (session : ℕ) (h : SessionDict c.mSessionBiDict c.issued) :
    (c.removeSession session).frame = c.frame ∧ (c.removeSession session).issued = c.issued ∧
      SessionDict (c.removeSession session).mSessionBiDict c.issued := by
  rw [removeSession]
  split_ifs with hhas
  · exact ⟨rfl, rfl, h.rmBySession hhas⟩
  · exact ⟨rfl, rfl, h⟩

theorem onResponse_cases (request : Request) (error : LocationError) (id : ℕ)
    (h : SessionDict c.mSessionBiDict c.issued) :
    (c.onResponse request error id).1.frame = c.frame ∧
      (c.onResponse request error id).1.issued = c.issued ∧
      SessionDict (c.onResponse request error id).1.mSessionBiDict c.issued := by
  have hremove := removeSession_cases id h
  rw [onResponse]
  split
  · exact ⟨rfl, rfl, h⟩
  · exact ⟨rfl, rfl, h⟩
  · exact ⟨rfl, rfl, h⟩
  · exact ⟨rfl, rfl, h⟩
  · exact ⟨rfl, rfl, h⟩
  · dsimp only
    split_ifs
    · exact hremove
    · exact ⟨rfl, rfl, h⟩

theorem onResponseCb_cases (call : Awaited) (error : LocationError)
    (h : SessionDict c.mSessionBiDict c.issued) :
    (c.onResponseCb call error).1.frame = c.frame ∧
      (c.onResponseCb call error).1.issued = c.issued ∧
      SessionDict (c.onResponseCb call error).1.mSessionBiDict c.issued := by
  have hsame := sameTables_getRequestBySession (c := c) call.session
  have hframe := frame_getRequestBySession (c := c) call.session
  rw [onResponseCb]
  generalize c.getRequestBySession call.session = found at hsame hframe ⊢
  obtain ⟨request, c'⟩ := found
  have hc' : c' = { c with mRequestQueues := c'.mRequestQueues } := hsame
  have hissued : c'.issued = c.issued := by rw [hc']
  have hdict : SessionDict c'.mSessionBiDict c'.issued := by
    rw [hc']
    exact h
  cases request with
  | none => exact ⟨hframe, hissued, hissued ▸ hdict⟩
  | some request =>
    obtain ⟨hframe', hissued', hdict'⟩ := onResponse_cases request error call.session hdict
    exact ⟨hframe'.trans hframe, hissued'.trans hissued, hissued ▸ hdict'⟩

variable {c' : LocationAPIClientBase} {outs : List Output}

/-- What a step about sessions does to what the geofences depend on: nothing but that a session may
have been given out. -/
theorem sessionStep_frame {e : SessionEvent}
    (h : SessionDict c.mSessionBiDict c.issued) (hs : c.sessionStep e = some (c', outs)) :
    c'.frame = c.frame ∧ (∀ session ∈ c.issued, session ∈ c'.issued) ∧
      SessionDict c'.mSessionBiDict c'.issued := by
  have hframe : c'.frame = c.frame := by
    cases e with
    | locAPIStartSession id sessionMode options session =>
      simp only [sessionStep, locAPIStartSession] at hs
      split_ifs at hs <;> cases hs <;> rfl
    | locAPIStopSession id =>
      simp only [sessionStep, locAPIStopSession] at hs
      split_ifs at hs <;> cases hs <;> rfl
    | locAPIUpdateSessionOptions id sessionMode options session =>
      simp only [sessionStep, locAPIUpdateSessionOptions] at hs
      split_ifs at hs <;> cases hs <;> rfl
    | locAPIGetBatchedLocations id count =>
      simp only [sessionStep, locAPIGetBatchedLocations] at hs
      split_ifs at hs <;> cases hs <;> rfl
    | onResponseCb i error =>
      rw [sessionStep] at hs
      split at hs
      · cases hs
      split_ifs at hs
      next call hcall hfirst =>
      have hcb := onResponseCb_cases (c := { c with awaiting := c.awaiting.eraseIdx i }) call error h
      rw [Option.some_inj.mp hs] at hcb
      exact hcb.1
  refine ⟨hframe, ?_⟩
  rcases sessionStep_cases h hs with ⟨hcall, -⟩ | ⟨i, error, call, -, -, heq⟩
  · exact ⟨(geofences_of_sessionCall hcall).2, hcall.sessionDict h⟩
  · have hcb := onResponseCb_cases (c := { c with awaiting := c.awaiting.eraseIdx i }) call error h
    rw [← heq] at hcb
    obtain ⟨-, hissued, hdict⟩ := hcb
    have hissued' : c'.issued = c.issued := hissued
    rw [hissued']
    exact ⟨fun _ ↦ id, hdict⟩

/-! ## The invariant -/

/-- What holds of the geofences in every run: those that are known were added, so that calls for them
are taken. -/
structure GeofencesOk (c : LocationAPIClientBase) : Prop where
  sessions : SessionDict c.mSessionBiDict c.issued
  linked : Linked c.mGeofenceBiDict c.issued
  takes : ∀ session, c.mGeofenceBiDict.hasSession session = true → c.TakesGeofences

theorem geofencesOk_initial (mLocationAPI : Bool) : (initial mLocationAPI).GeofencesOk :=
  ⟨.empty, .empty, fun _ hhas ↦ by cases hhas⟩

theorem takesGeofences_iff_frame :
    c.TakesGeofences ↔ c.frame.1 = true ∧ c.frame.2.1 = geofenceSessionId := Iff.rfl

theorem GeofencesOk.sessionStep (h : c.GeofencesOk) {e : SessionEvent}
    (hs : c.sessionStep e = some (c', outs)) : c'.GeofencesOk := by
  obtain ⟨hframe, hissued, hsessions⟩ := sessionStep_frame h.sessions hs
  have hdict : c'.mGeofenceBiDict = c.mGeofenceBiDict := congrArg (fun f ↦ f.2.2) hframe
  refine ⟨hsessions, ?_, fun session hhas ↦ ?_⟩
  · rw [hdict]
    exact h.linked.mono hissued
  · rw [hdict] at hhas
    rw [takesGeofences_iff_frame, hframe]
    exact h.takes session hhas

theorem GeofencesOk.callGeofences {α : Type} (h : c.GeofencesOk) (kind : RequestKind)
    (call : List ℕ → ApiCall) {f : BiDict ℕ → ℕ → ℕ → α → BiDict ℕ}
    (hf : ∀ d id session x, Linked d c.issued → d.mForwardMap.find? id = some session →
      Linked (f d id session x) c.issued) (geofences : List (ℕ × α)) :
    (c.callGeofences kind call f geofences).1.GeofencesOk := by
  have hdict := forKnown_invariant (P := fun d ↦ Linked d c.issued) hf geofences h.linked
  rw [LocationAPIClientBase.callGeofences]
  split_ifs with hcond
  · rw [Bool.and_eq_true, decide_eq_true_iff] at hcond
    have htakes : c.TakesGeofences := hcond
    dsimp only
    split_ifs
    · exact ⟨h.sessions, hdict, fun _ _ ↦ htakes⟩
    · exact ⟨h.sessions, hdict, fun _ _ ↦ htakes⟩
  · exact h

theorem GeofencesOk.locAPIAddGeofences (h : c.GeofencesOk) {geofences : List (ℕ × ℕ)}
    {sessions : Option (List ℕ)} (hfresh : c.FreshSessions geofences sessions) :
    (c.locAPIAddGeofences geofences sessions).1.GeofencesOk := by
  by_cases hapi : c.mLocationAPI = true
  swap
  · simp only [LocationAPIClientBase.locAPIAddGeofences, hapi, Bool.not_false, if_true]
    exact h
  cases sessions with
  | none =>
    simp only [LocationAPIClientBase.locAPIAddGeofences, hapi, Bool.not_true, Bool.false_eq_true,
      if_false]
    split_ifs
    · exact ⟨h.sessions, h.linked, fun _ _ ↦ ⟨hapi, rfl⟩⟩
    · exact h
  | some sessions =>
    obtain ⟨hlen, hnodup, hfresh⟩ := hfresh sessions rfl
    have hsnd : (geofences.zip sessions).map Prod.snd = sessions := map_snd_zip hlen.le
    have hset : Linked (setGeofences (geofences.zip sessions) c.mGeofenceBiDict)
        (sessions ++ c.issued) := by
      have hnew : ∀ g ∈ geofences.zip sessions, g.2 ∉ c.issued :=
        fun g hmem ↦ (hfresh g.2 (of_mem_zip hmem).2).2
      have hset := h.linked.setGeofences (hsnd.symm ▸ hnodup) hnew
      rwa [hsnd] at hset
    have hsessions := h.sessions.issueAll fun session hmem ↦ (hfresh session hmem).1
    simp only [LocationAPIClientBase.locAPIAddGeofences, hapi, Bool.not_true, Bool.false_eq_true,
      if_false]
    split_ifs with hqueue
    · exact ⟨hsessions, hset, fun _ _ ↦ ⟨hapi, rfl⟩⟩
    · exact ⟨hsessions, hset, fun _ _ ↦ ⟨hapi, not_not.mp hqueue⟩⟩

theorem GeofencesOk.beforeBatchingStatusCb (h : c.GeofencesOk) (tripCompleted : Bool)
    (tripCompletedList : List ℕ) :
    (c.beforeBatchingStatusCb tripCompleted tripCompletedList).1.GeofencesOk := by
  rw [LocationAPIClientBase.beforeBatchingStatusCb]
  split_ifs
  · exact ⟨sessionDict_completeTrips h.sessions, h.linked, h.takes⟩
  · exact h

theorem GeofencesOk.step (h : c.GeofencesOk) {e : Event} (hs : c.step e = some (c', outs)) : c'.GeofencesOk :=
  step_keeps h (fun _ ↦ h.sessionStep) h.beforeBatchingStatusCb
    (fun _ _ _ ↦ h.locAPIAddGeofences) h.callGeofences (fun _ _ _ hd ↦ hd.rmBySession)
    (fun _ _ _ mask hd hid ↦ hd.set_of_bound hid mask) hs

/-! ## The loop over ids -/

section Loop

variable {d : BiDict ℕ} {issued : List ℕ}

/-- Looking up different ids and removing their sessions, the loop finds the sessions that the ids
had before it, and leaves the rest. -/
theorem forKnown_rmBySession (hd : Linked d issued) (hzero : 0 ∉ issued) {ids : List ℕ}
    (hids : ids.Nodup) :
    let result := forKnown (fun d _ session (_ : Unit) ↦ d.rmBySession session)
      (ids.map fun id ↦ (id, ())) d
    result.1 = ids.filterMap d.mForwardMap.find? ∧
    (∀ id, result.2.mForwardMap.find? id = if id ∈ ids then none else d.mForwardMap.find? id) ∧
    (∀ session, result.2.mBackwardMap.find? session =
      if session ∈ ids.filterMap d.mForwardMap.find? then none
      else d.mBackwardMap.find? session) ∧
    Linked result.2 issued := by
  induction ids generalizing d with
  | nil => exact ⟨rfl, fun _ ↦ rfl, fun _ ↦ rfl, hd⟩
  | cons id ids ih =>
    obtain ⟨hid, hids⟩ := nodup_cons.mp hids
    simp only [map_cons, forKnown]
    cases hbound : d.mForwardMap.find? id with
    | none =>
      have hsession : d.getSession id = 0 := by rw [BiDict.getSession, hbound]; rfl
      simp only [hsession, gt_iff_lt, lt_irrefl, if_false, filterMap_cons_none hbound]
      obtain ⟨hsessions, hforward, hbackward, hlinked⟩ := ih hd hids
      refine ⟨hsessions, fun id' ↦ ?_, hbackward, hlinked⟩
      rw [hforward]
      by_cases hid' : id' = id
      · rw [hid', if_pos mem_cons_self, if_neg hid, hbound]
      · simp [hid']
    | some session =>
      have hsession : d.getSession id = session := by rw [BiDict.getSession, hbound]; rfl
      have hpos : 0 < session := by
        refine Nat.pos_of_ne_zero fun h ↦ hzero ?_
        exact h ▸ hd.mem_issued session (hd.hasSession_of_find? hbound)
      simp only [hsession, gt_iff_lt, hpos, if_true]
      obtain ⟨hsessions, hforward, hbackward, hlinked⟩ := ih (hd.rmBySession hbound) hids
      have hsame : ids.filterMap (d.rmBySession session).mForwardMap.find? =
          ids.filterMap d.mForwardMap.find? := by
        refine filterMap_congr fun id' hid' ↦ ?_
        rw [hd.find?_mForwardMap_rmBySession hbound, if_neg]
        rintro rfl
        exact hid hid'
      rw [filterMap_cons_some hbound, ← hsame]
      refine ⟨by rw [hsessions], fun id' ↦ ?_, fun session' ↦ ?_, hlinked⟩
      · rw [hforward, hd.find?_mForwardMap_rmBySession hbound]
        simp only [mem_cons]
        by_cases hid' : id' = id <;> by_cases hmem : id' ∈ ids <;> simp [hid', hmem]
      · rw [hbackward]
        simp only [mem_cons]
        rw [BiDict.rmBySession, find?_erase]
        by_cases hs : session' = session
        · simp [hs]
        · simp [hs]

/-- A dictionary with nothing in it -/
def IsEmpty (d : BiDict ℕ) : Prop :=
  ∀ n, d.mForwardMap.find? n = none ∧ d.mBackwardMap.find? n = none ∧ d.mExtMap.find? n = none

theorem nodup_getAllSessions (d : BiDict ℕ) : d.getAllSessions.Nodup := OrderedMap.nodup_keys

theorem mem_getAllSessions {session : ℕ} :
    session ∈ d.getAllSessions ↔ d.hasSession session = true := by
  rw [BiDict.getAllSessions, BiDict.hasSession, Option.isSome_iff_exists, mem_map]
  constructor
  · rintro ⟨e, he, rfl⟩
    exact ⟨e.2, find?_eq_some_iff.mpr he⟩
  · rintro ⟨id, hid⟩
    exact ⟨(session, id), find?_eq_some_iff.mp hid, rfl⟩

/-- Where all sessions are ids, the sessions of these ids are all sessions. -/
theorem filterMap_getAllSessions_perm (hd : Linked d issued)
    (hall : ∀ session, d.hasSession session = true → d.hasId session = true) :
    (d.getAllSessions.filterMap d.mForwardMap.find?).Perm d.getAllSessions := by
  have hlength : (d.getAllSessions.filterMap d.mForwardMap.find?).length =
      d.getAllSessions.length :=
    filterMap_length_eq_length.mpr fun session hmem ↦
      hall session (mem_getAllSessions.mp hmem)
  have hnodup : (d.getAllSessions.filterMap d.mForwardMap.find?).Nodup := by
    refine (nodup_getAllSessions d).filterMap fun id id' session hid hid' ↦ ?_
    exact Option.some_inj.mp
      ((hd.back id session hid).symm.trans (hd.back id' session hid'))
  have hsub : d.getAllSessions.filterMap d.mForwardMap.find? ⊆ d.getAllSessions := by
    intro session hmem
    obtain ⟨id, -, hid⟩ := mem_filterMap.mp hmem
    exact mem_getAllSessions.mpr (hd.hasSession_of_find? hid)
  exact (hnodup.subperm hsub).perm_of_length_le hlength.ge

/-- Nothing is left exactly when all sessions are ids. -/
theorem isEmpty_forKnown_iff (hd : Linked d issued) (hzero : 0 ∉ issued) :
    IsEmpty (forKnown (fun d _ session (_ : Unit) ↦ d.rmBySession session)
        (d.getAllSessions.map fun id ↦ (id, ())) d).2 ↔
      ∀ session, d.hasSession session = true → d.hasId session = true := by
  obtain ⟨-, hforward, hbackward, hlinked⟩ :=
    forKnown_rmBySession hd hzero (nodup_getAllSessions d)
  constructor
  · intro hempty
    -- no session is left, so as many ids as there are sessions have been found
    have hsub : d.getAllSessions ⊆ d.getAllSessions.filterMap d.mForwardMap.find? := by
      intro session hmem
      by_contra hnot
      have hleft := (hempty session).2.1
      rw [hbackward, if_neg hnot] at hleft
      rw [mem_getAllSessions, BiDict.hasSession, hleft] at hmem
      cases hmem
    have hle := ((nodup_getAllSessions d).subperm hsub).length_le
    have hlength := filterMap_length_eq_length.mp
      (Nat.le_antisymm (length_filterMap_le _ _) hle)
    exact fun session hhas ↦ hlength session (mem_getAllSessions.mpr hhas)
  · intro hall n
    have hperm := filterMap_getAllSessions_perm hd hall
    have hback : ∀ session, (forKnown (fun d _ session (_ : Unit) ↦ d.rmBySession session)
        (d.getAllSessions.map fun id ↦ (id, ())) d).2.mBackwardMap.find? session = none := by
      intro session
      rw [hbackward]
      split_ifs with hmem
      · rfl
      · rw [hperm.mem_iff, mem_getAllSessions, BiDict.hasSession, Option.not_isSome_iff_eq_none]
          at hmem
        exact hmem
    refine ⟨?_, hback n, ?_⟩
    · cases hn : (forKnown (fun d _ session (_ : Unit) ↦ d.rmBySession session)
        (d.getAllSessions.map fun id ↦ (id, ())) d).2.mForwardMap.find? n with
      | none => rfl
      | some session =>
        have hsome := hlinked.back n session hn
        rw [hback] at hsome
        cases hsome
    · have hext := hlinked.ext n
      rw [BiDict.hasSession, hback] at hext
      exact Option.not_isSome_iff_eq_none.mp (by rw [hext]; exact Bool.false_ne_true)

end Loop

/-- What `locAPIRemoveAllGeofences` is to do: the dictionary is empty afterwards, and the sessions
that were in it are handed to `LocationAPI`, if there are any. -/
def RemovesAll (c : LocationAPIClientBase) : Prop :=
  IsEmpty c.locAPIRemoveAllGeofences.1.mGeofenceBiDict ∧
    ∃ sessions, sessions.Perm c.mGeofenceBiDict.getAllSessions ∧
      c.locAPIRemoveAllGeofences.2 = if sessions = [] then [] else [.api (.removeGeofences sessions)]

theorem GeofencesOk.removesAll_iff (h : c.GeofencesOk) :
    c.RemovesAll ↔ ∀ session, c.mGeofenceBiDict.hasSession session = true →
      c.mGeofenceBiDict.hasId session = true := by
  have hloop := isEmpty_forKnown_iff h.linked h.sessions.zero_not_mem
  obtain ⟨hsessions, -⟩ := forKnown_rmBySession h.linked h.sessions.zero_not_mem
    (nodup_getAllSessions c.mGeofenceBiDict)
  rw [RemovesAll, locAPIRemoveAllGeofences]
  split_ifs with hnil
  · -- there is nothing to remove
    rw [hnil] at hloop ⊢
    exact (and_iff_left ⟨[], .nil, rfl⟩).trans hloop
  obtain ⟨session, hmem⟩ := exists_mem_of_ne_nil _ hnil
  obtain ⟨hapi, hqueue⟩ := h.takes session (mem_getAllSessions.mp hmem)
  have hcond : (c.mLocationAPI &&
      decide ((c.mRequestQueues .geofence).mSession = geofenceSessionId)) = true := by
    rw [hapi, hqueue]
    rfl
  rw [LocationAPIClientBase.locAPIRemoveGeofences, LocationAPIClientBase.callGeofences, if_pos hcond]
  dsimp only at hsessions ⊢
  rw [← hloop]
  split_ifs with hnone
  · refine and_iff_left_of_imp fun hempty ↦ ?_
    have hperm := filterMap_getAllSessions_perm h.linked (hloop.mp hempty)
    exact ⟨[], by rw [← hnone, hsessions]; exact hperm, rfl⟩
  · refine and_iff_left_of_imp fun hempty ↦ ?_
    have hperm := filterMap_getAllSessions_perm h.linked (hloop.mp hempty)
    exact ⟨_, hsessions ▸ hperm, (if_neg hnone).symm⟩

end LocationAPIClientBase

/-- In every run, all geofences are removed exactly when every session in the dictionary is also an
id in it. -/
theorem removesAll_iff_of_run {mLocationAPI : Bool} {hist : List (Item Event Output)}
    {c : LocationAPIClientBase}
    (h : Run LocationAPIClientBase.step (fun _ _ ↦ True)
      (LocationAPIClientBase.initial mLocationAPI) hist c) :
    c.RemovesAll ↔ ∀ session, c.mGeofenceBiDict.hasSession session = true →
      c.mGeofenceBiDict.hasId session = true :=
  (h.invariant (I := fun _ (c : LocationAPIClientBase) ↦ c.GeofencesOk)
    (LocationAPIClientBase.geofencesOk_initial _) fun hok _ hs ↦ hok.step hs).removesAll_iff

/-- Two geofences have each other's id as session. -/
theorem removesAll_iff_of_run_crossed :
    ∃ hist c, Run LocationAPIClientBase.step (fun _ _ ↦ True)
      (LocationAPIClientBase.initial true) hist c ∧ c.mGeofenceBiDict.getAllSessions = [2, 3] ∧
        c.RemovesAll := by
  obtain ⟨hist, c, hrun, hsessions, h2, h3⟩ := Run.exists_of_runEvents LocationAPIClientBase.step
    (fun _ _ ↦ True) (LocationAPIClientBase.initial true)
    [.locAPIAddGeofences [(3, 1), (2, 1)] (some [2, 3])]
    (fun _ c ↦ c.mGeofenceBiDict.getAllSessions = [2, 3] ∧
      c.mGeofenceBiDict.hasId 2 = true ∧ c.mGeofenceBiDict.hasId 3 = true) (by decide +kernel)
  refine ⟨hist, c, hrun, hsessions, (removesAll_iff_of_run hrun).mpr fun session hhas ↦ ?_⟩
  rw [← LocationAPIClientBase.mem_getAllSessions, hsessions] at hhas
  simp only [mem_cons, not_mem_nil, or_false] at hhas
  rcases hhas with rfl | rfl
  · exact h2
  · exact h3

/-- The id of the only geofence is not its session: nothing is removed. -/
theorem not_removesAll :
    ∃ hist c, Run LocationAPIClientBase.step (fun _ _ ↦ True)
      (LocationAPIClientBase.initial true) hist c ∧ ¬c.RemovesAll ∧
        c.locAPIRemoveAllGeofences.2 = [] := by
  obtain ⟨hist, c, hrun, houts, hleft⟩ := Run.exists_of_runEvents LocationAPIClientBase.step
    (fun _ _ ↦ True) (LocationAPIClientBase.initial true)
    [.locAPIAddGeofences [(7, 1)] (some [2])]
    (fun _ c ↦ c.locAPIRemoveAllGeofences.2.length = 0 ∧
      c.locAPIRemoveAllGeofences.1.mGeofenceBiDict.mBackwardMap.find? 2 = some 7)
    (by decide +kernel)
  refine ⟨hist, c, hrun, fun h ↦ ?_, length_eq_zero_iff.mp houts⟩
  rw [(h.1 2).2.1] at hleft
  cases hleft

end MataDevice.Client
