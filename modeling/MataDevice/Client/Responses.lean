import MataDevice.Client.Dictionaries

/-!
# Answers and the objects of the calls

The objects of all sessions wait in one queue, and an answer for a known session takes the first of
them, whichever session that was pushed for. So the answers reach their objects only while they come
in the order of all calls with an object. Moreover an answer for a session that is not known takes
nothing: whatever takes a session out of the dictionary leaves the objects of its other calls
behind, and so does an update that replaces the session.

As long as none of this happens, the queue holds exactly the objects of the calls that wait.
-/

namespace MataDevice.Client

open List
open MataDevice.Tracking (LocationError TrackingOptions)

/-! ## Taking one call out of a list -/

section FilterMap

variable {α β : Type} {f : α → Option β} {l : List α} {i : ℕ} {a : α}

theorem eq_append_cons_of_getElem? (h : l[i]? = some a) : l = l.take i ++ a :: l.drop (i + 1) := by
  obtain ⟨hi, rfl⟩ := List.getElem?_eq_some_iff.mp h
  rw [← drop_eq_getElem_cons hi, take_append_drop]

/-- An item without a value leaves the values as they are. -/
theorem filterMap_eraseIdx_of_none (h : l[i]? = some a) (ha : f a = none) :
    (l.eraseIdx i).filterMap f = l.filterMap f := by
  conv_rhs => rw [eq_append_cons_of_getElem? h]
  rw [eraseIdx_eq_take_drop_succ, filterMap_append, filterMap_append,
    filterMap_cons_none ha]

/-- The first item with a value has the first of the values. -/
theorem filterMap_eq_cons_eraseIdx {b : β} (h : l[i]? = some a) (ha : f a = some b)
    (hfirst : ∀ x ∈ l.take i, f x = none) :
    l.filterMap f = b :: (l.eraseIdx i).filterMap f := by
  have hnone : (l.take i).filterMap f = [] := filterMap_eq_nil_iff.mpr hfirst
  conv_lhs => rw [eq_append_cons_of_getElem? h]
  rw [eraseIdx_eq_take_drop_succ, filterMap_append, filterMap_append, hnone,
    filterMap_cons_some ha, nil_append, nil_append]

end FilterMap

/-- An answer for a known session is delivered to the object of the call. -/
def Output.Delivered : Output → Prop
  | .answered _ true expected delivered =>
    ∃ request, expected = some request ∧ delivered = some request
  | _ => True

theorem Output.delivered_of_isAnswer {out : Output} (h : out.isAnswer = false) : out.Delivered := by
  cases out with
  | answered session known expected delivered => cases h
  | api call => trivial
  | returned error => trivial
  | callback kind error => trivial
  | onBatchingStatusCb listOfCompletedTrips => trivial

namespace LocationAPIClientBase

variable {c c' : LocationAPIClientBase}

/-! ## The queue and the calls that wait -/

/-- The queue holds the objects of the calls that wait, and a call that waits has an object if and
only if its session is known. -/
structure Queued (c : LocationAPIClientBase) : Prop where
  dicts : SessionDict c.mSessionBiDict c.issued
  queue : (c.mRequestQueues .session).mQueue = c.awaiting.filterMap Awaited.request
  known : ∀ call ∈ c.awaiting, call.request.isSome = c.mSessionBiDict.hasSession call.session
  issued : ∀ call ∈ c.awaiting, call.session ∈ c.issued
  /-- The queues that are searched by their session have none. -/
  idle : ∀ type, type ≠ .session → (c.mRequestQueues type).mSession = 0

theorem queued_initial (mLocationAPI : Bool) : (initial mLocationAPI).Queued where
  dicts := .empty
  queue := rfl
  known := fun call hcall ↦ by cases hcall
  issued := fun call hcall ↦ by cases hcall
  idle := fun _ _ ↦ rfl

/-- The steps after which the queue still holds the objects of the calls that wait. An answer comes
after the answers to all earlier calls with an object; if it takes the session out of the
dictionary, no other call about the session waits; and none does when the session is replaced. -/
def InOrder (c : LocationAPIClientBase) : SessionEvent → Prop
  | .onResponseCb i error => ∀ call ∈ c.awaiting[i]?, ∀ request ∈ call.request,
    (∀ earlier ∈ c.awaiting.take i, earlier.request = none) ∧
      (request.kind.removes error = true →
        ∀ other ∈ c.awaiting.eraseIdx i, other.session = call.session → other.request = none)
  | .locAPIUpdateSessionOptions id sessionMode _ _ => c.switches id sessionMode = true →
    ∀ call ∈ c.awaiting, call.session = c.mSessionBiDict.getSession id → call.request = none
  | _ => True

instance : DecidablePred c.InOrder
  | .onResponseCb i error => inferInstanceAs (Decidable (∀ call ∈ c.awaiting[i]?,
    ∀ request ∈ call.request, (∀ earlier ∈ c.awaiting.take i, earlier.request = none) ∧
      (request.kind.removes error = true →
        ∀ other ∈ c.awaiting.eraseIdx i, other.session = call.session → other.request = none)))
  | .locAPIUpdateSessionOptions id sessionMode _ _ => inferInstanceAs (Decidable (_ → _))
  | .locAPIStartSession .. | .locAPIStopSession _ | .locAPIGetBatchedLocations .. => .isTrue trivial

/-! ## Calls -/

/-- What is known after a session has been bound to an id in the place of another one. -/
theorem hasSession_rebind {d : BiDict SessionEntity} {issued : List ℕ} (h : SessionDict d issued)
    {id old : ℕ} (hold : d.mForwardMap.find? id = some old) (session : ℕ) (entity : SessionEntity)
    (session' : ℕ) : ((d.rmById id).set id session entity).hasSession session' =
      (decide (session' = session) || decide (session' ≠ old) && d.hasSession session') := by
  rw [h.bijective.rmById_eq hold, BiDict.hasSession_set, BiDict.hasSession_rmBySession]

theorem Queued.idle_of_pushed (h : c.Queued) {kind : RequestKind} (hpushed : Pushed c c' kind) :
    ∀ type, type ≠ .session → (c'.mRequestQueues type).mSession = 0 := by
  intro type htype
  rw [hpushed.other type htype]
  exact h.idle type htype

/-- A call with its object is added at the end; `hknown` says that nothing changes for
the others. -/
theorem Queued.of_pushed (h : c.Queued) {kind : RequestKind} {session : ℕ}
    (hpushed : Pushed c c' kind) (hdict : SessionDict c'.mSessionBiDict c'.issued)
    (hawaiting : c'.awaiting = c.awaiting ++ [⟨session, some (c.newRequest kind)⟩])
    (hissued : ∀ s ∈ c.issued, s ∈ c'.issued)
    (hsession : c'.mSessionBiDict.hasSession session = true)
    (hknown : ∀ s ∈ c.issued, c'.mSessionBiDict.hasSession s = c.mSessionBiDict.hasSession s) :
    c'.Queued := by
  refine ⟨hdict, ?_, ?_, ?_, h.idle_of_pushed hpushed⟩
  · rw [hpushed.queue, h.queue, hawaiting, filterMap_append]
    rfl
  · rw [hawaiting, forall_mem_append, forall_mem_singleton]
    refine ⟨fun call hcall ↦ ?_, hsession.symm⟩
    rw [hknown call.session (h.issued call hcall)]
    exact h.known call hcall
  · rw [hawaiting, forall_mem_append, forall_mem_singleton]
    exact ⟨fun call hcall ↦ hissued _ (h.issued call hcall), hdict.mem_issued session hsession⟩

theorem Queued.of_sessionCall (h : c.Queued) {e : SessionEvent} (hg : c.InOrder e)
    (hcall : SessionCall c e c') : c'.Queued := by
  have hdict := hcall.sessionDict h.dicts
  cases hcall with
  | idle => exact h
  | @start _ _ id session entity kind hid hfresh hcurrent hpushed hset hissued hawaiting =>
    refine h.of_pushed hpushed hdict hawaiting ?_ ?_ ?_
    · exact hissued ▸ fun _ ↦ mem_cons_of_mem _
    · rw [hset, BiDict.hasSession_set, decide_eq_true rfl, Bool.true_or]
    · intro s hs
      have hne : s ≠ session := fun heq ↦ hfresh.2 (heq ▸ hs)
      rw [hset, BiDict.hasSession_set, decide_eq_false hne, Bool.false_or]
  | call hsession hpushed hset hissued hawaiting =>
    refine h.of_pushed hpushed hdict hawaiting (hissued ▸ fun _ ↦ id) (hset ▸ hsession) ?_
    exact fun s _ ↦ by rw [hset]
  | @update _ _ id session entity kind hid hcurrent hpushed hset hissued hawaiting =>
    have hhas := h.dicts.bijective.hasSession_of_find? hid
    refine h.of_pushed hpushed hdict hawaiting (hissued ▸ fun _ hs ↦ hs) ?_ ?_
    · rw [hset, hasSession_rebind h.dicts hid, decide_eq_true rfl, Bool.true_or]
    · intro s _
      rw [hset, hasSession_rebind h.dicts hid]
      by_cases heq : s = session
      · rw [heq, decide_eq_true rfl, Bool.true_or, hhas]
      · rw [decide_eq_false heq, decide_eq_true heq, Bool.false_or, Bool.true_and]
  | @switch _ id old session sessionMode options entity kind hswitches hid hfresh hcurrent hpushed
      hset hissued hawaiting =>
    have hold : old ∈ c.issued :=
      h.dicts.mem_issued old (h.dicts.bijective.hasSession_of_find? hid)
    have hne : ∀ s ∈ c.issued, s ≠ session := fun s hs heq ↦ hfresh.2 (heq ▸ hs)
    have hsession : c.mSessionBiDict.getSession id = old := by
      rw [BiDict.getSession, hid]
      rfl
    refine ⟨hdict, ?_, ?_, ?_, h.idle_of_pushed hpushed⟩
    · rw [hpushed.queue, h.queue, hawaiting, filterMap_append]
      rfl
    · rw [hawaiting, forall_mem_append]
      refine ⟨fun call hmem ↦ ?_, fun call hmem ↦ ?_⟩
      · have hcall := hne call.session (h.issued call hmem)
        rw [hset, hasSession_rebind h.dicts hid, decide_eq_false hcall, Bool.false_or]
        by_cases heq : call.session = old
        · -- no call about the session that is replaced has an object
          rw [hg hswitches call hmem (heq.trans hsession.symm), heq]
          simp
        · rw [decide_eq_true heq, Bool.true_and]
          exact h.known call hmem
      · rw [hset, hasSession_rebind h.dicts hid]
        rcases mem_pair.mp hmem with rfl | rfl
        · simp [hne old hold]
        · simp
    · rw [hawaiting, hissued, forall_mem_append]
      refine ⟨fun call hmem ↦ mem_cons_of_mem _ (h.issued call hmem), fun call hmem ↦ ?_⟩
      rcases mem_pair.mp hmem with rfl | rfl
      · exact mem_cons_of_mem _ hold
      · exact mem_cons_self

/-! ## Answers -/

theorem onResponse_fst (request : Request) (error : LocationError) (id : ℕ) :
    (c.onResponse request error id).1 =
      if request.kind.removes error then c.removeSession id else c := by
  obtain ⟨kind, number⟩ := request
  cases kind <;> rfl

theorem quiet_of_onResponse (request : Request) (error : LocationError) (id : ℕ) :
    ∀ out ∈ (c.onResponse request error id).2, out.isAnswer = false := by
  obtain ⟨kind, number⟩ := request
  cases kind <;> simp [onResponse, Output.isAnswer]

section

variable (hidle : ∀ type, type ≠ .session → (c.mRequestQueues type).mSession = 0)
include hidle

/-- No queue but that of the sessions is searched for a session that has been given out. -/
theorem getRequestBySession_of_idle {session : ℕ}
    (hsession : session ≠ 0) : c.getRequestBySession session =
      if c.mSessionBiDict.hasSession session then c.popRequest .session else (none, c) := by
  have htracking := hidle .tracking (by decide)
  have hniResponse := hidle .niResponse (by decide)
  have hnone : c.getRequestOfQueue session = (none, c) := by
    rw [getRequestOfQueue, htracking, hniResponse, if_neg hsession.symm, if_neg hsession.symm]
  rw [getRequestBySession, hnone]

/-- An answer to a call without an object is for a session that is not known. -/
theorem onResponseCb_of_none {call : Awaited}
    (hzero : call.session ≠ 0) (hknown : c.mSessionBiDict.hasSession call.session = false)
    (error : LocationError) : c.onResponseCb call error =
      (c, [.answered call.session false call.request none]) := by
  rw [onResponseCb, getRequestBySession_of_idle hidle hzero, hknown]
  rfl

/-- An answer for a known session takes the first object of the queue. -/
theorem onResponseCb_of_cons {call : Awaited}
    (hzero : call.session ≠ 0) (hknown : c.mSessionBiDict.hasSession call.session = true)
    {request : Request} {rest : List Request}
    (hqueue : (c.mRequestQueues .session).mQueue = request :: rest) (error : LocationError) :
    c.onResponseCb call error =
      (((c.modifyQueue .session fun q ↦ q.pop.2).onResponse request error call.session).1,
        .answered call.session true call.request (some request) ::
          ((c.modifyQueue .session fun q ↦ q.pop.2).onResponse request error call.session).2) := by
  have hpop : (c.mRequestQueues .session).pop.1 = some request := by
    rw [RequestQueue.pop, hqueue]
  rw [onResponseCb, getRequestBySession_of_idle hidle hzero, hknown, if_pos rfl, popRequest, hpop]

end

section Answer

variable {i : ℕ} {call : Awaited}

theorem Queued.session_ne_zero (h : c.Queued) (hcall : call ∈ c.awaiting) : call.session ≠ 0 :=
  fun hzero ↦ h.dicts.zero_not_mem (hzero ▸ h.issued call hcall)

/-- The call that is answered is not waiting any more. -/
theorem Queued.eraseIdx (h : c.Queued) (hqueue : (c'.mRequestQueues .session).mQueue =
      (c.awaiting.eraseIdx i).filterMap Awaited.request)
    (hc' : c' = { c with
      awaiting := c.awaiting.eraseIdx i
      mRequestQueues := c'.mRequestQueues })
    (hidle : ∀ type, type ≠ .session → (c'.mRequestQueues type).mSession = 0) : c'.Queued := by
  have hmem : ∀ other ∈ c.awaiting.eraseIdx i, other ∈ c.awaiting := fun _ ↦ mem_of_mem_eraseIdx
  rw [hc'] at hqueue hidle ⊢
  exact ⟨h.dicts, hqueue, fun other hother ↦ h.known other (hmem other hother),
    fun other hother ↦ h.issued other (hmem other hother), hidle⟩

theorem Queued.removeSession (h : c.Queued) {session : ℕ}
    (hother : ∀ call ∈ c.awaiting, call.session = session → call.request = none) :
    (c.removeSession session).Queued := by
  rw [LocationAPIClientBase.removeSession]
  split_ifs with hhas
  swap
  · exact h
  refine ⟨h.dicts.rmBySession hhas, h.queue, fun call hcall ↦ ?_, h.issued, h.idle⟩
  rw [BiDict.hasSession_rmBySession]
  by_cases heq : call.session = session
  · rw [hother call hcall heq, heq]
    simp
  · rw [decide_eq_true heq, Bool.true_and]
    exact h.known call hcall

theorem Queued.onResponseCb (h : c.Queued) {error : LocationError}
    (hcall : c.awaiting[i]? = some call) (hg : c.InOrder (.onResponseCb i error)) :
    ({ c with awaiting := c.awaiting.eraseIdx i }.onResponseCb call error).1.Queued ∧
      ∀ out ∈ ({ c with awaiting := c.awaiting.eraseIdx i }.onResponseCb call error).2,
        out.Delivered := by
  have hmem := mem_of_getElem? hcall
  have hzero := h.session_ne_zero hmem
  have hknown := h.known call hmem
  cases hrequest : call.request with
  | none =>
    rw [hrequest] at hknown
    rw [onResponseCb_of_none (c := { c with awaiting := c.awaiting.eraseIdx i }) h.idle hzero
      hknown.symm]
    refine ⟨h.eraseIdx (h.queue.trans ?_) rfl h.idle, ?_⟩
    · exact (filterMap_eraseIdx_of_none hcall hrequest).symm
    · exact forall_mem_singleton.mpr trivial
  | some request =>
    rw [hrequest] at hknown
    obtain ⟨hfirst, hremoves⟩ := hg call hcall request hrequest
    have hqueue := h.queue.trans (filterMap_eq_cons_eraseIdx hcall hrequest hfirst)
    rw [onResponseCb_of_cons (c := { c with awaiting := c.awaiting.eraseIdx i }) h.idle hzero
      hknown.symm hqueue]
    have hpopped : Queued ({ c with awaiting := c.awaiting.eraseIdx i }.modifyQueue .session
        fun q ↦ q.pop.2) := by
      refine h.eraseIdx ?_ rfl fun type htype ↦ ?_
      · rw [mRequestQueues_modifyQueue, if_pos rfl, RequestQueue.pop, hqueue]
      · rw [mRequestQueues_modifyQueue, if_neg htype]
        exact h.idle type htype
    refine ⟨?_, forall_mem_cons.mpr ⟨⟨request, hrequest, rfl⟩, fun out hout ↦ ?_⟩⟩
    · rw [onResponse_fst]
      split_ifs with hremove
      · exact hpopped.removeSession (hremoves hremove)
      · exact hpopped
    · exact Output.delivered_of_isAnswer (quiet_of_onResponse request error call.session out hout)

end Answer

theorem Queued.sessionStep (h : c.Queued) {e : SessionEvent} {outs : List Output} (hg : c.InOrder e)
    (hs : c.sessionStep e = some (c', outs)) : c'.Queued ∧ ∀ out ∈ outs, out.Delivered := by
  rcases sessionStep_cases h.dicts hs with ⟨hcall, hquiet⟩ | ⟨i, error, call, rfl, hcall, heq⟩
  · exact ⟨h.of_sessionCall hg hcall,
      fun out hout ↦ Output.delivered_of_isAnswer (hquiet out hout)⟩
  · have hanswer := h.onResponseCb hcall hg
    rw [← heq] at hanswer
    exact hanswer

end LocationAPIClientBase

/-- Along every run whose answers come in the order of the calls, each answer for a known session is
delivered to the object that was pushed for the call, and when every call has been answered no
object is left in the queue. -/
theorem responses_delivered_of_run {mLocationAPI : Bool} {hist : List (Item SessionEvent Output)}
    {c : LocationAPIClientBase}
    (h : Run LocationAPIClientBase.sessionStep LocationAPIClientBase.InOrder
      (LocationAPIClientBase.initial mLocationAPI) hist c) :
    (∀ session expected delivered, .answered session true expected delivered ∈ outsOf hist →
      ∃ request, expected = some request ∧ delivered = some request) ∧
      (c.awaiting = [] → (c.mRequestQueues .session).mQueue = []) := by
  have hinv : c.Queued ∧ ∀ out ∈ outsOf hist, out.Delivered := by
    refine h.invariant (I := fun hist c ↦ c.Queued ∧ ∀ out ∈ outsOf hist, out.Delivered)
      ⟨LocationAPIClientBase.queued_initial _, fun out hout ↦ by cases hout⟩ ?_
    intro hist c e c' outs hinv hg hs
    obtain ⟨hqueued, hdelivered⟩ := hinv.1.sessionStep hg hs
    rw [outsOf_append_entry, forall_mem_append]
    exact ⟨hqueued, hinv.2, hdelivered⟩
  refine ⟨fun session expected delivered hmem ↦ hinv.2 _ hmem, fun hnil ↦ ?_⟩
  rw [hinv.1.queue, hnil]
  rfl

/-- Two sessions are open; one of them is switched to batching and read, both are stopped. -/
theorem responses_delivered_of_run_two :
    ∃ hist c, Run LocationAPIClientBase.sessionStep LocationAPIClientBase.InOrder
      (LocationAPIClientBase.initial true) hist c ∧
        .answered 12 true (some ⟨.getBatchedLocations, 3⟩) (some ⟨.getBatchedLocations, 3⟩) ∈
          outsOf hist ∧
        (∀ session expected delivered, .answered session true expected delivered ∈ outsOf hist →
          ∃ request, expected = some request ∧ delivered = some request) ∧
        c.awaiting = [] ∧ (c.mRequestQueues .session).mQueue = [] := by
  obtain ⟨hist, c, hrun, hread, hnil⟩ := Run.exists_of_runEvents LocationAPIClientBase.sessionStep
    LocationAPIClientBase.InOrder (LocationAPIClientBase.initial true)
    [.locAPIStartSession 5 .onFix sampleOptions 10, .locAPIStartSession 6 .onFull sampleOptions 11,
      .onResponseCb 0 .success, .locAPIUpdateSessionOptions 5 .onTripCompleted sampleOptions 12,
      .locAPIGetBatchedLocations 5 8, .onResponseCb 1 .success, .onResponseCb 0 .success,
      .onResponseCb 0 .success, .locAPIStopSession 6, .onResponseCb 0 .success,
      .onResponseCb 0 .success, .locAPIStopSession 5, .onResponseCb 0 .success]
    (fun hist c ↦ .answered 12 true (some ⟨.getBatchedLocations, 3⟩)
      (some ⟨.getBatchedLocations, 3⟩) ∈ outsOf hist ∧ c.awaiting = []) (by decide +kernel)
  obtain ⟨hdelivered, hqueue⟩ := responses_delivered_of_run hrun
  exact ⟨hist, c, hrun, hread, hdelivered, hnil, hqueue hnil⟩

/-- Two sessions are started and the second one is answered first: its answer is delivered to the
object of the first one. -/
theorem not_responses_delivered :
    ∃ hist c, Run LocationAPIClientBase.sessionStep (fun _ _ ↦ True)
      (LocationAPIClientBase.initial true) hist c ∧
        .answered 11 true (some ⟨.startBatching, 1⟩) (some ⟨.startTracking, 0⟩) ∈ outsOf hist ∧
        ¬∀ session expected delivered, .answered session true expected delivered ∈ outsOf hist →
          ∃ request, expected = some request ∧ delivered = some request := by
  obtain ⟨hist, c, hrun, hc⟩ := Run.exists_of_runEvents LocationAPIClientBase.sessionStep
    (fun _ _ ↦ True) (LocationAPIClientBase.initial true)
    [.locAPIStartSession 5 .onFix sampleOptions 10, .locAPIStartSession 6 .onFull sampleOptions 11,
      .onResponseCb 1 .success]
    (fun hist _ ↦ .answered 11 true (some ⟨.startBatching, 1⟩) (some ⟨.startTracking, 0⟩) ∈
      outsOf hist) (by decide +kernel)
  have hmem := hc
  refine ⟨hist, c, hrun, hmem, fun hall ↦ ?_⟩
  obtain ⟨request, hexpected, hdelivered⟩ := hall _ _ _ hmem
  rw [← hexpected] at hdelivered
  cases hdelivered

end MataDevice.Client
