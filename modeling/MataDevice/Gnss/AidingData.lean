import MataDevice.Lib.History
import MataDevice.Tracking.System

/-!
# Deleting aiding data

A request to delete aiding data gets an id and goes to the message task. If it names the standard
positioning engine it is sent to the modem, whose answer is the response to the request; otherwise
the adapter responds itself. Requests that come soon after one that has been sent are dropped.

What is compared with the limit of 5000 milliseconds are the seconds of the boot times, times a
million. So a request is dropped just if it comes in the same second as the last one sent, and it
gets no response then. The requests are throttled and all answered only if they are as far apart as
they should be anyway.
-/

namespace MataDevice.AidingData

open List
open MataDevice.Tracking (LocationError generateSessionId)

/-! ## The adapter -/

/-- `GnssAidingData`, as far as the adapter reads it -/
structure GnssAidingData where
  deleteAll : Bool
  posEngineMask : UInt32
  deriving DecidableEq

/-- `STANDARD_POSITIONING_ENGINE` is in the mask. -/
def GnssAidingData.isStandard (data : GnssAidingData) : Bool := data.posEngineMask &&& 1 != 0

/-- `timespec` -/
structure Timespec where
  tvSec : ℕ
  tvNsec : ℕ
  deriving DecidableEq

/-- The time in nanoseconds -/
def Timespec.nanos (t : Timespec) : ℕ := t.tvSec * 10 ^ 9 + t.tvNsec

structure GnssAdapter where
  mSessionIdCounter : ℕ
  /-- The messages of the message task, by id -/
  queue : List (ℕ × GnssAidingData)
  mLastDeleteAidingDataTime : ℤ
  /-- The requests that the modem has not answered, by id -/
  requests : List ℕ
  /-- When the last message was handled -/
  now : ℕ

def GnssAdapter.init : GnssAdapter := ⟨0, [], 0, [], 0⟩

/-- What the adapter does -/
inductive Out
  /-- `gnssDeleteAidingDataCommand` returns the id. -/
  | sessionId (sessionId : ℕ)
  /-- A request is sent to the modem, at a boot time. -/
  | deleteAidingData (data : GnssAidingData) (sessionId : ℕ) (bootTime : Timespec)
  | setDefaultGnssEngineStates
  | gnssDeleteAidingData (data : GnssAidingData)
  /-- The callback of the control client -/
  | responseCb (err : LocationError) (sessionId : ℕ)
  deriving DecidableEq

inductive Event
  | gnssDeleteAidingDataCommand (data : GnssAidingData)
  /-- The message task handles the first message at a boot time; the engine hub answers `retVal`. -/
  | proc (sessionId : ℕ) (data : GnssAidingData) (bootTime : Timespec) (retVal : Bool)
  /-- The modem answers a request. -/
  | respond (err : LocationError) (sessionId : ℕ)

namespace GnssAdapter

/-- `deleteAidingData`; `none` is a failure of `clock_gettime`. -/
def deleteAidingData (s : GnssAdapter) (data : GnssAidingData) (sessionId : ℕ)
    (bootDeleteAidingDataTime : Option Timespec) : GnssAdapter × List Out :=
  match bootDeleteAidingDataTime with
  | none => (s, [])
  | some bootTime =>
    let bootDeleteTimeMs : ℤ := bootTime.tvSec * 1000000
    let diffTimeBFirSecDelete := bootDeleteTimeMs - s.mLastDeleteAidingDataTime
    -- `DELETE_AIDING_DATA_EXPECTED_TIME_MS`
    if diffTimeBFirSecDelete > 5000 then
      ({ s with
          requests := s.requests ++ [sessionId]
          mLastDeleteAidingDataTime := bootDeleteTimeMs },
        [.deleteAidingData data sessionId bootTime])
    else (s, [])

/-- `MsgDeleteAidingData::proc` -/
def proc (s : GnssAdapter) (sessionId : ℕ) (data : GnssAidingData) (bootTime : Timespec)
    (retVal : Bool) : GnssAdapter × List Out :=
  if data.isStandard then
    let deleted := s.deleteAidingData data sessionId (some bootTime)
    (deleted.1, deleted.2 ++ (if data.deleteAll then [.setDefaultGnssEngineStates] else []) ++
      [.gnssDeleteAidingData data])
  else
    (s, [.gnssDeleteAidingData data,
      .responseCb (if retVal then .success else .notSupported) sessionId])

/-- One step; a message that is not the first one, or an answer to no request, is refused. -/
def step (s : GnssAdapter) : Event → Option (GnssAdapter × List Out)
  | .gnssDeleteAidingDataCommand data =>
    let sessionId := generateSessionId s.mSessionIdCounter
    some ({ s with
      mSessionIdCounter := sessionId
      queue := s.queue ++ [(sessionId, data)] }, [.sessionId sessionId])
  | .proc sessionId data bootTime retVal =>
    match s.queue with
    | [] => none
    | message :: queue =>
      if message = (sessionId, data) then
        some (({ s with queue := queue, now := bootTime.nanos }).proc sessionId data bootTime
          retVal)
      else none
  | .respond err sessionId =>
    if sessionId ∈ s.requests then
      some ({ s with requests := s.requests.erase sessionId }, [.responseCb err sessionId])
    else none

end GnssAdapter

/-- The boot times do not decrease. -/
def IsTimed (s : GnssAdapter) : Event → Prop
  | .proc _ _ bootTime _ =>
    s.now ≤ bootTime.nanos ∧ bootTime.tvSec < 2 ^ 31 ∧ bootTime.tvNsec < 10 ^ 9
  | _ => True

/-! ## What a run shows -/

abbrev History := List (Item Event Out)

/-- The id that a command gets -/
def Out.asSessionId : Out → Option ℕ
  | .sessionId id => some id
  | _ => none

def Out.asResponse : Out → Option ℕ
  | .responseCb _ id => some id
  | _ => none

def Out.asDeletion : Out → Option Timespec
  | .deleteAidingData _ _ bootTime => some bootTime
  | _ => none

/-- The boot time at which a request for the standard engine is handled -/
def Event.asStandard : Event → Option Timespec
  | .proc _ data bootTime _ => if data.isStandard then some bootTime else none
  | _ => none

def sessionIds (hist : History) : List ℕ := (outsOf hist).filterMap Out.asSessionId

def responses (hist : History) : List ℕ := (outsOf hist).filterMap Out.asResponse

def deletions (hist : History) : List Timespec := (outsOf hist).filterMap Out.asDeletion

def standards (hist : History) : List Timespec := (eventsOf hist).filterMap Event.asStandard

/-- More than `DELETE_AIDING_DATA_EXPECTED_TIME_MS` apart -/
def Apart (t t' : Timespec) : Prop := t.nanos + 5000 * 10 ^ 6 < t'.nanos

/-- Every command has got exactly one response, with its id, and no two requests have been sent to
the modem too soon one after the other. -/
def IsThrottled (hist : History) : Prop :=
  (responses hist).Perm (sessionIds hist) ∧ (deletions hist).Pairwise Apart

/-- The requests for the standard engine come apart, and none in the first second. -/
def AreApart (hist : History) : Prop :=
  (∀ t ∈ standards hist, 1 ≤ t.tvSec) ∧ (standards hist).Pairwise Apart

section

variable (hist : History) (e : Event) (outs : List Out)

@[simp] theorem sessionIds_append_entry : sessionIds (hist ++ entry e outs) =
    sessionIds hist ++ outs.filterMap Out.asSessionId := by
  rw [sessionIds, outsOf_append_entry, filterMap_append, sessionIds]

@[simp] theorem responses_append_entry : responses (hist ++ entry e outs) =
    responses hist ++ outs.filterMap Out.asResponse := by
  rw [responses, outsOf_append_entry, filterMap_append, responses]

@[simp] theorem deletions_append_entry : deletions (hist ++ entry e outs) =
    deletions hist ++ outs.filterMap Out.asDeletion := by
  rw [deletions, outsOf_append_entry, filterMap_append, deletions]

@[simp] theorem standards_append_entry : standards (hist ++ entry e outs) =
    standards hist ++ e.asStandard.toList := by
  rw [standards, eventsOf_append_entry, filterMap_append, standards, filterMap_cons]
  cases e.asStandard <;> rfl

end

/-! ## Every request has a place -/

/-- Every id is that of a response, of a request to the modem or of a message that waits, or its
request has been dropped; the requests for the standard engine that have not been dropped have been
sent. -/
structure Accounted (ids responses requests queued dropped : List ℕ)
    (deletions standards : List Timespec) (last : ℤ) : Prop where
  count : ∀ id, ids.count id =
    responses.count id + requests.count id + queued.count id + dropped.count id
  length : deletions.length + dropped.length = standards.length
  sublist : deletions.Sublist standards
  last_eq : last = deletions.getLast?.elim 0 fun t ↦ (t.tvSec * 1000000 : ℤ)
  pos : ∀ t ∈ deletions, 1 ≤ t.tvSec

namespace Accounted

variable {ids responses requests queued dropped : List ℕ} {deletions standards : List Timespec}
  {last : ℤ} {id : ℕ} {t : Timespec}

theorem start : Accounted [] [] [] [] [] [] [] 0 :=
  ⟨fun _ ↦ rfl, rfl, .slnil, rfl, fun _ h ↦ absurd h not_mem_nil⟩

theorem called (h : Accounted ids responses requests queued dropped deletions standards last) :
    Accounted (ids ++ [id]) responses requests (queued ++ [id]) dropped deletions standards
      last := by
  refine ⟨fun id' ↦ ?_, h.length, h.sublist, h.last_eq, h.pos⟩
  rw [count_append, count_append, h.count]
  omega

theorem responded
    (h : Accounted ids responses requests (id :: queued) dropped deletions standards last) :
    Accounted ids (responses ++ [id]) requests queued dropped deletions standards last := by
  refine ⟨fun id' ↦ ?_, h.length, h.sublist, h.last_eq, h.pos⟩
  have hcount := h.count id'
  rw [← singleton_append, count_append] at hcount
  rw [count_append, hcount]
  omega

theorem answered (h : Accounted ids responses requests queued dropped deletions standards last)
    (hmem : id ∈ requests) :
    Accounted ids (responses ++ [id]) (requests.erase id) queued dropped deletions standards
      last := by
  refine ⟨fun id' ↦ ?_, h.length, h.sublist, h.last_eq, h.pos⟩
  have hcount := (perm_cons_erase hmem).count_eq id'
  rw [← singleton_append, count_append] at hcount
  rw [count_append, h.count, hcount]
  omega

theorem last_nonneg
    (h : Accounted ids responses requests queued dropped deletions standards last) : 0 ≤ last := by
  rw [h.last_eq]
  cases deletions.getLast? with
  | none => exact le_rfl
  | some t =>
    rw [Option.elim_some]
    positivity

theorem sent (h : Accounted ids responses requests (id :: queued) dropped deletions standards last)
    (hlast : 5000 < (t.tvSec * 1000000 : ℤ) - last) :
    Accounted ids responses (requests ++ [id]) queued dropped (deletions ++ [t])
      (standards ++ [t]) (t.tvSec * 1000000) := by
  have hnonneg := h.last_nonneg
  refine ⟨fun id' ↦ ?_, ?_, h.sublist.append (List.Sublist.refl [t]), ?_, ?_⟩
  · have hcount := h.count id'
    rw [← singleton_append, count_append] at hcount
    rw [count_append, hcount]
    omega
  · rw [length_append, length_append, ← h.length]
    omega
  · rw [getLast?_concat, Option.elim_some]
  · rw [forall_mem_append, forall_mem_singleton]
    exact ⟨h.pos, by omega⟩

theorem drop
    (h : Accounted ids responses requests (id :: queued) dropped deletions standards last) :
    Accounted ids responses requests queued (dropped ++ [id]) deletions (standards ++ [t])
      last := by
  refine ⟨fun id' ↦ ?_, ?_, h.sublist.trans (sublist_append_left _ _), h.last_eq, h.pos⟩
  · have hcount := h.count id'
    rw [← singleton_append, count_append] at hcount
    rw [count_append, hcount]
    omega
  · rw [length_append, length_append, ← h.length, Nat.add_assoc]
    rfl

end Accounted

/-- The ids and the requests of a run -/
def IsAccounted (hist : History) (s : GnssAdapter) (dropped : List ℕ) : Prop :=
  Accounted (sessionIds hist) (responses hist) s.requests (s.queue.map Prod.fst) dropped
    (deletions hist) (standards hist) s.mLastDeleteAidingDataTime

variable {s s' : GnssAdapter} {e : Event} {outs : List Out} {dropped : List ℕ}

theorem IsAccounted.step {hist : History} (h : IsAccounted hist s dropped) (hstep : s.step e = some (s', outs)) :
    ∃ dropped, IsAccounted (hist ++ entry e outs) s' dropped := by
  cases e with
  | gnssDeleteAidingDataCommand data =>
    obtain ⟨rfl, rfl⟩ := some_pair_inj hstep
    refine ⟨dropped, ?_⟩
    simpa [IsAccounted, filterMap_cons, Out.asSessionId, Out.asResponse, Out.asDeletion,
      Event.asStandard] using h.called
  | respond err id =>
    rw [GnssAdapter.step] at hstep
    split_ifs at hstep with hmem
    obtain ⟨rfl, rfl⟩ := some_pair_inj hstep
    refine ⟨dropped, ?_⟩
    simpa [IsAccounted, filterMap_cons, Out.asSessionId, Out.asResponse, Out.asDeletion,
      Event.asStandard] using h.answered hmem
  | proc id data bootTime retVal =>
    rw [IsAccounted] at h
    rw [GnssAdapter.step] at hstep
    cases hqueue : s.queue with
    | nil =>
      rw [hqueue] at hstep
      cases hstep
    | cons message queue =>
      rw [hqueue, map_cons] at h
      rw [hqueue] at hstep
      dsimp only at hstep
      split_ifs at hstep with hmessage
      subst hmessage
      have hproc := Option.some_inj.mp hstep
      rw [GnssAdapter.proc] at hproc
      cases hstandard : data.isStandard with
      | false =>
        rw [hstandard, if_neg Bool.false_ne_true] at hproc
        obtain ⟨rfl, rfl⟩ := Prod.mk.inj hproc
        refine ⟨dropped, ?_⟩
        simpa [IsAccounted, filterMap_cons, Out.asSessionId, Out.asResponse, Out.asDeletion,
          Event.asStandard, hstandard] using h.responded
      | true =>
        rw [hstandard, if_pos rfl, GnssAdapter.deleteAidingData] at hproc
        dsimp only at hproc
        by_cases hlast : (bootTime.tvSec * 1000000 : ℤ) - s.mLastDeleteAidingDataTime > 5000
        · rw [if_pos hlast] at hproc
          obtain ⟨rfl, rfl⟩ := Prod.mk.inj hproc
          refine ⟨dropped, ?_⟩
          cases hall : data.deleteAll <;>
            simpa [IsAccounted, filterMap_cons, Out.asSessionId, Out.asResponse,
              Out.asDeletion, Event.asStandard, hstandard, hall] using h.sent hlast
        · rw [if_neg hlast] at hproc
          obtain ⟨rfl, rfl⟩ := Prod.mk.inj hproc
          refine ⟨dropped ++ [id], ?_⟩
          cases hall : data.deleteAll <;>
            simpa [IsAccounted, filterMap_cons, Out.asSessionId, Out.asResponse,
              Out.asDeletion, Event.asStandard, hstandard, hall] using h.drop

/-! ## Requests that come apart -/

/-- A request for the standard engine is sent just if its second is not that of the last one. -/
theorem asDeletion_step (h : s.step e = some (s', outs)) :
    outs.filterMap Out.asDeletion = (e.asStandard.filter fun t ↦
      decide ((t.tvSec * 1000000 : ℤ) - s.mLastDeleteAidingDataTime > 5000)).toList := by
  cases e with
  | gnssDeleteAidingDataCommand data =>
    obtain ⟨rfl, rfl⟩ := some_pair_inj h
    rfl
  | respond err id =>
    rw [GnssAdapter.step] at h
    split_ifs at h
    obtain ⟨rfl, rfl⟩ := some_pair_inj h
    rfl
  | proc id data bootTime retVal =>
    rw [GnssAdapter.step] at h
    split at h
    · cases h
    split_ifs at h
    have hproc := Option.some_inj.mp h
    rw [GnssAdapter.proc, GnssAdapter.deleteAidingData] at hproc
    rw [Event.asStandard]
    cases hstandard : data.isStandard with
    | false =>
      rw [hstandard, if_neg Bool.false_ne_true] at hproc
      obtain ⟨rfl, rfl⟩ := Prod.mk.inj hproc
      rfl
    | true =>
      rw [hstandard, if_pos rfl] at hproc
      dsimp only at hproc
      rw [if_pos rfl, Option.filter_some]
      by_cases hlast : (bootTime.tvSec * 1000000 : ℤ) - s.mLastDeleteAidingDataTime > 5000
      · rw [if_pos hlast] at hproc
        obtain ⟨rfl, rfl⟩ := Prod.mk.inj hproc
        rw [if_pos (decide_eq_true hlast)]
        cases data.deleteAll <;> rfl
      · rw [if_neg hlast] at hproc
        obtain ⟨rfl, rfl⟩ := Prod.mk.inj hproc
        rw [decide_eq_false hlast, if_neg Bool.false_ne_true]
        cases data.deleteAll <;> rfl

theorem tvNsec_lt_of_asStandard {s : GnssAdapter} {t : Timespec}
    (htimed : IsTimed s e) (h : e.asStandard = some t) : t.tvNsec < 10 ^ 9 := by
  cases e with
  | gnssDeleteAidingDataCommand data => cases h
  | respond err id => cases h
  | proc id data bootTime retVal =>
    rw [Event.asStandard] at h
    split_ifs at h
    obtain rfl := Option.some_inj.mp h
    exact htimed.2.2

/-- If the requests come apart, all of them have been sent. -/
theorem deletions_eq_standards {hist : History} (haccounted : IsAccounted hist s dropped)
    (h : AreApart hist → deletions hist = standards hist) (htimed : IsTimed s e)
    (hstep : s.step e = some (s', outs)) (hapart : AreApart (hist ++ entry e outs)) :
    deletions (hist ++ entry e outs) = standards (hist ++ entry e outs) := by
  rw [AreApart, standards_append_entry, forall_mem_append, pairwise_append] at hapart
  obtain ⟨⟨hpos, hpos'⟩, hpairwise, -, hlater⟩ := hapart
  have hsame := h ⟨hpos, hpairwise⟩
  rw [deletions_append_entry, standards_append_entry, hsame, asDeletion_step hstep]
  refine congrArg (standards hist ++ ·) ?_
  cases ht : e.asStandard with
  | none => rfl
  | some t =>
    rw [ht, Option.toList_some, forall_mem_singleton] at hpos'
    rw [ht, Option.toList_some] at hlater
    have hnsec := tvNsec_lt_of_asStandard htimed ht
    rw [Option.filter_some, if_pos]
    rw [decide_eq_true_iff, haccounted.last_eq, hsame]
    cases hlast : (standards hist).getLast? with
    | none =>
      rw [Option.elim_none]
      omega
    | some last =>
      have hapart := hlater last (mem_of_getLast? hlast) t (mem_singleton.mpr rfl)
      rw [Apart, Timespec.nanos, Timespec.nanos] at hapart
      rw [Option.elim_some]
      omega

/-- **Deletions of aiding data.** In a run in which all messages have been handled and all requests
to the modem answered, every command has got one response and the requests that were sent are far
enough apart if and only if all requests for the standard engine came so, and after the first
second. -/
theorem delete_aiding_data_iff {hist : History} {s : GnssAdapter}
    (h : Run GnssAdapter.step IsTimed .init hist s) (hqueue : s.queue = [])
    (hrequests : s.requests = []) : IsThrottled hist ↔ AreApart hist := by
  have hinv : (∃ dropped, IsAccounted hist s dropped) ∧
      (AreApart hist → deletions hist = standards hist) := by
    refine h.invariant (I := fun hist s ↦ (∃ dropped, IsAccounted hist s dropped) ∧
      (AreApart hist → deletions hist = standards hist))
      ⟨⟨[], Accounted.start⟩, fun _ ↦ rfl⟩ fun hinv htimed hstep ↦ ?_
    obtain ⟨⟨dropped, haccounted⟩, hsame⟩ := hinv
    exact ⟨haccounted.step hstep, deletions_eq_standards haccounted hsame htimed hstep⟩
  obtain ⟨⟨dropped, haccounted⟩, hsame⟩ := hinv
  rw [IsAccounted, hqueue, hrequests, map_nil] at haccounted
  have hcount := haccounted.count
  simp only [count_nil, Nat.add_zero] at hcount
  have hlength := haccounted.length
  constructor
  · rintro ⟨hperm, hpairwise⟩
    have hnone : dropped = [] := by
      refine eq_nil_iff_forall_not_mem.mpr fun id hmem ↦ ?_
      have hid := hcount id
      rw [hperm.count_eq] at hid
      have hpos := count_pos_iff.mpr hmem
      omega
    rw [hnone, length_nil, Nat.add_zero] at hlength
    have heq := haccounted.sublist.eq_of_length hlength
    rw [heq] at hpairwise
    exact ⟨fun t ht ↦ haccounted.pos t (heq ▸ ht), hpairwise⟩
  · intro hapart
    have heq := hsame hapart
    have hnone : dropped = [] := by
      rw [heq] at hlength
      exact eq_nil_of_length_eq_zero (by omega)
    refine ⟨perm_iff_count.mpr fun id ↦ ?_, heq ▸ hapart.2⟩
    rw [hcount, hnone, count_nil, Nat.add_zero]

/-! ## Two requests -/

instance (s : GnssAdapter) : (e : Event) → Decidable (IsTimed s e)
  | .gnssDeleteAidingDataCommand _ | .respond .. => inferInstanceAs (Decidable True)
  | .proc _ _ bootTime _ => inferInstanceAs (Decidable (_ ∧ _))

/-- A request to delete everything in the standard engine -/
def sampleData : GnssAidingData := ⟨true, 1⟩

/-- Two requests, handled at two boot times, and the answers to those that have been sent -/
def sampleEvents (bootTime bootTime' : Timespec) (ids : List ℕ) : List Event :=
  [.gnssDeleteAidingDataCommand sampleData, .proc 1 sampleData bootTime true,
    .gnssDeleteAidingDataCommand sampleData, .proc 2 sampleData bootTime' true] ++
  ids.map (.respond .success)

/-- Ten seconds -/
theorem delete_aiding_data_iff_tenSeconds :
    ∃ hist s, Run GnssAdapter.step IsTimed .init hist s ∧ responses hist = [2, 1] ∧
      IsThrottled hist := by
  obtain ⟨hist, s, hrun, hqueue, hrequests, hresponses, hstandards⟩ :=
    Run.exists_of_runEvents GnssAdapter.step IsTimed .init
    (sampleEvents ⟨5, 0⟩ ⟨15, 0⟩ [2, 1])
    (fun hist s ↦ s.queue = [] ∧ s.requests = [] ∧ responses hist = [2, 1] ∧
      standards hist = [⟨5, 0⟩, ⟨15, 0⟩]) (by decide +kernel)
  refine ⟨hist, s, hrun, hresponses, (delete_aiding_data_iff hrun hqueue hrequests).mpr ?_⟩
  rw [AreApart, hstandards]
  refine ⟨by decide, ?_⟩
  rw [pairwise_pair, Apart]
  decide

/-- A millisecond, across a second: both requests are sent. Within a second the later one gets no
response. -/
theorem not_delete_aiding_data_millisecond :
    (∃ hist s, Run GnssAdapter.step IsTimed .init hist s ∧ s.queue = [] ∧ s.requests = [] ∧
        ¬ IsThrottled hist ∧ deletions hist = [⟨5, 999000000⟩, ⟨6, 0⟩]) ∧
      ∃ hist s, Run GnssAdapter.step IsTimed .init hist s ∧ s.queue = [] ∧ s.requests = [] ∧
        ¬ IsThrottled hist ∧ sessionIds hist = [1, 2] ∧ responses hist = [1] := by
  constructor
  · obtain ⟨hist, s, hrun, hqueue, hrequests, hdeletions⟩ :=
      Run.exists_of_runEvents GnssAdapter.step IsTimed .init
      (sampleEvents ⟨5, 999000000⟩ ⟨6, 0⟩ [2, 1])
      (fun hist s ↦ s.queue = [] ∧ s.requests = [] ∧
        deletions hist = [⟨5, 999000000⟩, ⟨6, 0⟩]) (by decide +kernel)
    refine ⟨hist, s, hrun, hqueue, hrequests, fun ⟨_, hpairwise⟩ ↦ ?_, hdeletions⟩
    rw [hdeletions, pairwise_pair, Apart] at hpairwise
    exact absurd hpairwise (by decide)
  · obtain ⟨hist, s, hrun, hqueue, hrequests, hids, hresponses⟩ :=
      Run.exists_of_runEvents GnssAdapter.step IsTimed .init
      (sampleEvents ⟨5, 0⟩ ⟨5, 1000000⟩ [1])
      (fun hist s ↦ s.queue = [] ∧ s.requests = [] ∧ sessionIds hist = [1, 2] ∧
        responses hist = [1]) (by decide +kernel)
    refine ⟨hist, s, hrun, hqueue, hrequests, fun ⟨hperm, _⟩ ↦ ?_, hids, hresponses⟩
    rw [hids, hresponses] at hperm
    exact absurd hperm.length_eq (by decide)

end MataDevice.AidingData
