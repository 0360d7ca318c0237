import MataDevice.HalDaemon.Service

/-!
# The answers of the HAL daemon

A client of the HAL daemon gets a generic response for each answer of `LocationAPI`. Which request
it names is taken from `mPendingMessages`, one queue for all requests of the client. The queue is
in step with the calls that wait for an answer as long as every request that is pushed has led to a
call and the calls are answered in their order. Neither is sure: a request that finds nothing to do
is pushed as well, and the answers of the tracking session and of the batching session may overtake
each other. From then on the responses name other requests.
-/

namespace MataDevice.HalDaemon

open MataDevice.Tracking (LocationError GnssSuplMode)
open MataDevice.Batching (BatchingMode)

namespace LocHalDaemonClientHandler

variable (h : LocHalDaemonClientHandler)

/-- The message finds something to do: a start no session, a stop or an update one. -/
def FindsWork : Message → Prop
  | .startTracking _ => h.mSessionId = 0
  | .stopTracking | .updateTrackingOptions _ => h.HasTracking
  | .startBatching .. => h.mBatchingId = 0
  | .stopBatching | .updateBatchingOptions .. => h.HasBatching
  | .updateSubscription _ => True

instance : ∀ msg, Decidable (h.FindsWork msg)
  | .startTracking _ => inferInstanceAs (Decidable (_ = _))
  | .stopTracking | .updateTrackingOptions _ => inferInstanceAs (Decidable h.HasTracking)
  | .startBatching .. => inferInstanceAs (Decidable (_ = _))
  | .stopBatching | .updateBatchingOptions .. => inferInstanceAs (Decidable h.HasBatching)
  | .updateSubscription _ => inferInstanceAs (Decidable True)

end LocHalDaemonClientHandler

namespace Client

/-- The queue of pending messages is in step with the calls that wait for an answer. -/
def InStep (c : Client) : Prop := c.handler.mPendingMessages = c.api.awaiting.map Prod.snd

variable {c : Client} {mode : GnssSuplMode} {id : UInt32} {msg : Message}

theorem inStep_new (locationApi : Bool) : (new locationApi).InStep := rfl

/-! ## One client -/

section

variable (h : c.InStep)
include h

/-- A call that is made and pushed keeps the queue in step. -/
theorem InStep.append {c' : Client} {session : Session} {msgId : ELocMsgID}
    (hpending : c'.handler.mPendingMessages = c.handler.mPendingMessages ++ [msgId])
    (hawaiting : c'.api.awaiting = c.api.awaiting ++ [(session, msgId)]) : c'.InStep := by
  have hqueue : c.handler.mPendingMessages = c.api.awaiting.map Prod.snd := h
  rw [InStep, hpending, hawaiting, hqueue, List.map_append, List.map_singleton]

/-- What is changed besides the two queues does not matter. -/
theorem InStep.congr {c' : Client}
    (hpending : c'.handler.mPendingMessages = c.handler.mPendingMessages)
    (hawaiting : c'.api.awaiting = c.api.awaiting) : c'.InStep := by
  rw [InStep, hpending, hawaiting]
  exact h

theorem InStep.startTracking (hwork : c.handler.mSessionId = 0)
    (locOptions : LocationOptions) : (c.startTracking mode locOptions id).InStep := by
  by_cases hfail : c.handler.mLocationApi = false ∨ id = 0
  · -- nothing will be answered, and nothing is pushed
    obtain ⟨options, heq⟩ := startTracking_of_failed mode locOptions hwork hfail
    rw [heq]
    exact h.congr rfl rfl
  · push Not at hfail
    rw [startTracking_of_started hwork (by simpa using hfail.1) hfail.2]
    exact h.append rfl rfl

theorem InStep.startBatching (hwork : c.handler.mBatchingId = 0)
    (interval distance : UInt32) (batchingMode : BatchingMode) :
    (c.startBatching interval distance batchingMode id).InStep := by
  by_cases hfail : c.handler.mLocationApi = false ∨ id = 0
  · obtain ⟨options, heq⟩ := startBatching_of_failed interval distance batchingMode hwork hfail
    rw [heq]
    exact h.congr rfl rfl
  · push Not at hfail
    rw [startBatching_of_started hwork (by simpa using hfail.1) hfail.2]
    exact h.append rfl rfl

/-- A message that finds something to do keeps the queue in step. -/
theorem InStep.handle (hwork : c.handler.FindsWork msg) :
    (c.handle mode id msg).InStep := by
  cases msg with
  | startTracking locOptions => exact h.startTracking hwork locOptions
  | stopTracking =>
    rw [Client.handle, stopTracking_of_running hwork]
    exact h.append rfl rfl
  | updateTrackingOptions locOptions =>
    rw [Client.handle, updateTrackingOptions_of_running hwork]
    exact h.append rfl rfl
  | updateSubscription mask =>
    rw [Client.handle, updateSubscription_eq]
    exact h.congr rfl rfl
  | startBatching interval distance batchingMode =>
    exact h.startBatching hwork interval distance batchingMode
  | stopBatching =>
    rw [Client.handle, stopBatching_of_running hwork]
    exact h.append rfl rfl
  | updateBatchingOptions interval distance batchingMode =>
    rw [Client.handle, updateBatchingOptions_of_running hwork]
    exact h.append rfl rfl

theorem InStep.suspend (hwork : c.handler.mTracking = true → c.handler.HasTracking) :
    c.suspend.InStep := by
  cases htrack : c.handler.mTracking with
  | false => rwa [suspend_of_not_tracking htrack]
  | true =>
    rw [suspend_of_running htrack (hwork htrack)]
    exact h.append rfl rfl

theorem InStep.resume
    (hwork : c.handler.mTracking = true → c.handler.mSessionId = 0) : (c.resume id).1.InStep := by
  cases htrack : c.handler.mTracking with
  | false => rwa [resume_of_not_tracking htrack]
  | true =>
    by_cases hfail : c.handler.mLocationApi = false ∨ id = 0
    · rwa [resume_of_failed htrack (hwork htrack) hfail]
    · push Not at hfail
      rw [resume_of_started htrack (hwork htrack) (by simpa using hfail.1) hfail.2]
      exact h.append rfl rfl

end

/-- After it was suspended a client has no session that would make a resumption idle. -/
theorem mSessionId_suspend (hwork : c.handler.mTracking = true → c.handler.HasTracking) :
    c.suspend.handler.mTracking = true → c.suspend.handler.mSessionId = 0 := by
  cases htrack : c.handler.mTracking with
  | false =>
    rw [suspend_of_not_tracking htrack, htrack]
    exact fun h ↦ absurd h (by simp)
  | true =>
    rw [suspend_of_running htrack (hwork htrack)]
    exact fun _ ↦ rfl

/-- The oldest call is answered with the message that waits the longest. -/
theorem InStep.answer_zero {answered : ELocMsgID} (h : c.InStep)
    (hanswered : c.api.answers 0 = some answered) :
    ({ c with api := c.api.answer 0 } : Client).popPending.1.InStep ∧
      c.handler.mPendingMessages.head? = some answered := by
  have hqueue : c.handler.mPendingMessages = c.api.awaiting.map Prod.snd := h
  cases hawait : c.api.awaiting with
  | nil => simp [LocationAPI.answers, hawait] at hanswered
  | cons call awaiting =>
    obtain rfl : call.2 = answered := by simpa [LocationAPI.answers, hawait] using hanswered
    simp [InStep, popPending, LocationAPI.answer, hqueue, hawait]

end Client

/-! ## The service -/

namespace LocationApiService

/-- The step lets the queue of the client `name` and its calls go together: each request of the
client finds something to do, sessions are suspended while they run and resumed while they do not,
and of the calls of the client the oldest one is answered. -/
def Orderly (name : SocketName) (s : LocationApiService) : Event → Prop
  | .message name' msg _ =>
    name' = name → ∀ c ∈ s.mClients.find? name, c.handler.FindsWork msg
  | .onPowerEvent powerState _ =>
    ∀ c ∈ s.mClients.find? name, c.handler.mTracking = true →
      (powerState.isDown = true → c.handler.HasTracking) ∧
        (powerState = .resume → c.handler.mSessionId = 0)
  | .configAidingDataDeletion _ =>
    ∀ c ∈ s.mClients.find? name, c.handler.mTracking = true → c.handler.HasTracking
  | .onResponseCb name' i _ _ => name' = name → i = 0
  | .newClient .. | .deleteClient _ => True

instance (name : SocketName) (s : LocationApiService) : ∀ e, Decidable (s.Orderly name e)
  | .message name' msg _ => inferInstanceAs (Decidable (_ → _))
  | .onPowerEvent powerState _ => inferInstanceAs (Decidable (∀ c ∈ s.mClients.find? name, _))
  | .configAidingDataDeletion _ => inferInstanceAs (Decidable (∀ c ∈ s.mClients.find? name, _))
  | .onResponseCb name' i _ _ => inferInstanceAs (Decidable (_ → _))
  | .newClient .. | .deleteClient _ => inferInstanceAs (Decidable True)

/-- The queue of the client is in step with its calls. -/
def InStep (name : SocketName) (s : LocationApiService) : Prop :=
  ∀ c ∈ s.mClients.find? name, c.InStep

/-- The responses to the client name the requests whose calls they answer. -/
def Answered (name : SocketName) (outs : List Output) : Prop :=
  ∀ msgId err answered, .genericResp name msgId err answered ∈ outs → msgId = answered

/-- When all calls are answered no message waits any more. -/
def Settled (name : SocketName) (s : LocationApiService) : Prop :=
  ∀ c ∈ s.mClients.find? name, c.api.awaiting = [] → c.handler.mPendingMessages = []

variable {s s' : LocationApiService} {name : SocketName} {e : Event} {outs : List Output}
  {hist : List (Item Event Output)} {mode : GnssSuplMode} {order : List (SocketName × UInt32)}

theorem InStep.settled (h : s.InStep name) : s.Settled name := by
  intro c hc hawaiting
  have hqueue : c.handler.mPendingMessages = c.api.awaiting.map Prod.snd := h c hc
  rw [hqueue, hawaiting, List.map_nil]

theorem Answered.append {outs' : List Output} (h : Answered name outs) (h' : Answered name outs') :
    Answered name (outs ++ outs') := by
  intro msgId err answered hmem
  rcases List.mem_append.mp hmem with hmem | hmem
  · exact h msgId err answered hmem
  · exact h' msgId err answered hmem

theorem answered_nil : Answered name [] := by
  intro msgId err answered hmem
  cases hmem

section

variable (h : s.InStep name)
include h

theorem InStep.suspendAll (hwork : ∀ c ∈ s.mClients.find? name,
    c.handler.mTracking = true → c.handler.HasTracking) :
    s.suspendAllTrackingSessions.InStep name := by
  intro c hc
  rw [find?_suspendAllTrackingSessions] at hc
  obtain ⟨c, hfind, rfl⟩ := Option.map_eq_some_iff.mp hc
  exact (h c hfind).suspend (hwork c hfind)

theorem InStep.resumeAll (horder : (order.map Prod.fst).Nodup) (hwork : ∀ c ∈ s.mClients.find? name,
      c.handler.mTracking = true → c.handler.mSessionId = 0) :
    (s.resumeAllTrackingSessions order).InStep name := by
  intro c hc
  rcases find?_resumeAllTrackingSessions (s := s) name horder with
    hsame | ⟨c', id, hfind, -, hres⟩
  · rw [hsame] at hc
    exact h c hc
  · obtain rfl : (c'.resume id).1 = c := Option.some_inj.mp (hres.symm.trans hc)
    exact (h c' hfind).resume (hwork c' hfind)

theorem InStep.message {name' : SocketName} {msg : Message} {id : UInt32}
    (hwork : s.Orderly name (.message name' msg id)) : (s.message name' msg id).InStep name := by
  intro c hc
  rw [find?_message] at hc
  split at hc
  · next heq =>
    obtain ⟨c, hfind, rfl⟩ := Option.map_eq_some_iff.mp hc
    exact (h c hfind).handle (hwork heq.symm c hfind)
  · exact h c hc

theorem InStep.onPowerEvent {powerState : PowerStateType}
    (horder : s.Walk order) (hwork : s.Orderly name (.onPowerEvent powerState order)) :
    (s.onPowerEvent powerState order).InStep name := by
  -- the state is set first, which the clients do not see
  have hset : ({ s with mPowerState := powerState } : LocationApiService).InStep name := h
  cases powerState with
  | unknown => exact hset
  | suspend | shutdown => exact hset.suspendAll fun c hc ht ↦ (hwork c hc ht).1 rfl
  | resume => exact hset.resumeAll horder.nodup fun c hc ht ↦ (hwork c hc ht).2 rfl

theorem InStep.configAidingDataDeletion (horder : s.Walk order)
    (hwork : s.Orderly name (.configAidingDataDeletion order)) :
    (s.configAidingDataDeletion order).InStep name := by
  have hsuspended := h.suspendAll hwork
  rw [LocationApiService.configAidingDataDeletion]
  split
  · exact hsuspended
  · refine hsuspended.resumeAll horder.nodup fun c hc ↦ ?_
    rw [find?_suspendAllTrackingSessions] at hc
    obtain ⟨c, hfind, rfl⟩ := Option.map_eq_some_iff.mp hc
    exact Client.mSessionId_suspend (hwork c hfind)

/-- Answering the oldest call of the client keeps its queue in step, and the response names the
request of the call. -/
theorem InStep.onResponseCb {name' : SocketName} {c : Client} {i : ℕ}
    (err : LocationError) {answered : ELocMsgID} (rc : Bool)
    (hfind : s.mClients.find? name' = some c) (hanswered : c.api.answers i = some answered)
    (hwork : name' = name → i = 0) :
    (s.onResponseCb name' { c with api := c.api.answer i } err answered rc).1.InStep name ∧
      Answered name
        (s.onResponseCb name' { c with api := c.api.answer i } err answered rc).2 := by
  refine ⟨fun c' hc' ↦ ?_, fun msgId err' answered' hmem ↦ ?_⟩
  · rcases find?_onResponseCb (s := s) name name' { c with api := c.api.answer i } err answered
      rc with hres | ⟨-, hres⟩
    · rw [hres] at hc'
      split at hc'
      · next heq =>
        subst heq
        obtain rfl := hwork rfl
        obtain rfl := Option.some_inj.mp hc'
        exact ((h c hfind).answer_zero hanswered).1
      · exact h c' hc'
    · rw [hres] at hc'
      cases hc'
  · obtain ⟨rfl, hhead, rfl⟩ := mem_onResponseCb hmem
    obtain rfl := hwork rfl
    have hfront := ((h c hfind).answer_zero hanswered).2
    exact Option.some_inj.mp (hhead.symm.trans hfront)

/-- A step that goes well keeps the queue in step, and its responses are right. -/
theorem InStep.step (hwork : s.Orderly name e)
    (hs : s.step e = some (s', outs)) : s'.InStep name ∧ Answered name outs := by
  cases e with
  | newClient name' locationApi =>
    have hres := Option.some_inj.mp hs
    rcases newClient_eq (s := s) name' locationApi with heq | heq
    · obtain ⟨rfl, rfl⟩ := Prod.mk.inj (heq.symm.trans hres)
      exact ⟨h, answered_nil⟩
    · obtain ⟨rfl, rfl⟩ := Prod.mk.inj (heq.symm.trans hres)
      refine ⟨fun c hc ↦ ?_, fun msgId err answered hmem ↦ ?_⟩
      · rw [find?_setClient] at hc
        split at hc
        · obtain rfl := Option.some_inj.mp hc
          exact Client.inStep_new locationApi
        · exact h c hc
      · cases List.mem_singleton.mp hmem
  | deleteClient name' =>
    obtain ⟨rfl, rfl⟩ := some_pair_inj hs
    refine ⟨fun c hc ↦ ?_, answered_nil⟩
    rw [find?_deleteClientbyName] at hc
    split at hc
    · cases hc
    · exact h c hc
  | message name' msg id =>
    obtain ⟨rfl, rfl⟩ := some_pair_inj hs
    exact ⟨h.message hwork, answered_nil⟩
  | onPowerEvent powerState order =>
    obtain ⟨⟨-, horder⟩, rfl, rfl⟩ := step_onPowerEvent hs
    exact ⟨h.onPowerEvent horder hwork, answered_nil⟩
  | configAidingDataDeletion order =>
    obtain ⟨horder, rfl, rfl⟩ := step_configAidingDataDeletion hs
    exact ⟨h.configAidingDataDeletion horder hwork, answered_nil⟩
  | onResponseCb name' i err rc =>
    obtain ⟨c, answered, hfind, hanswered, heq⟩ := step_onResponseCb hs
    have hres := h.onResponseCb err rc hfind hanswered hwork
    rwa [heq] at hres

end

/-- **The answers of the daemon.** In an orderly run every response names the request whose call it
answers, and no message waits when all calls are answered. -/
theorem responses_of_run (h : Run step (Orderly name) (init mode) hist s) :
    Answered name (outsOf hist) ∧ s.Settled name := by
  have hinv : s.InStep name ∧ Answered name (outsOf hist) := by
    refine h.invariant (I := fun hist s ↦ s.InStep name ∧ Answered name (outsOf hist))
      ⟨fun c hc ↦ ?_, answered_nil⟩ ?_
    · cases hc
    · intro hist s e s' outs ⟨hin, hans⟩ hg hs
      obtain ⟨hin', hans'⟩ := hin.step hg hs
      rw [outsOf_append_entry]
      exact ⟨hin', hans.append hans'⟩
  exact ⟨hinv.2, hinv.1.settled⟩

/-- A client starts, updates and stops tracking and batching, over a suspension. -/
theorem responses_of_run_two_sessions : ∃ hist s,
    Run step (Orderly 0) (init .standalone) hist s ∧
      (outsOf hist).length = 7 ∧ Answered 0 (outsOf hist) ∧ s.Settled 0 := by
  obtain ⟨hist, s, hrun, hlen⟩ := Run.exists_of_runEvents step (Orderly 0) (init .standalone)
    [.newClient 0 true, .message 0 (.startTracking ⟨1500, 0, .msb, 0⟩) 1,
      .message 0 (.startBatching 1000 0 .routine) 2, .onPowerEvent .suspend [(0, 3)],
      .onResponseCb 0 0 .success true, .onPowerEvent .resume [(0, 3)],
      .message 0 (.updateBatchingOptions 2000 0 .routine) 0, .message 0 .stopTracking 0,
      .onResponseCb 0 0 .success true, .onResponseCb 0 0 .success true,
      .onResponseCb 0 0 .success true, .onResponseCb 0 0 .success true,
      .onResponseCb 0 0 .success true]
    (fun hist _ ↦ (outsOf hist).length = 7) (by decide +kernel)
  exact ⟨hist, s, hrun, by simpa using hlen, responses_of_run hrun⟩

/-- Nothing was started when the client stops tracking. The message is pushed all the same, and the
answer to the start that follows is taken for the one to the stop. -/
theorem not_answered : ¬∀ mode name hist s, Run step (fun _ _ ↦ True) (init mode) hist s →
    Answered name (outsOf hist) ∧ s.Settled name := by
  intro hall
  obtain ⟨hist, s, hrun, hout⟩ := Run.exists_of_runEvents step (fun _ _ ↦ True) (init .standalone)
    [.newClient 0 true, .message 0 .stopTracking 0,
      .message 0 (.startTracking ⟨1000, 0, .standalone, 0⟩) 1, .onResponseCb 0 0 .success true]
    (fun hist _ ↦ .genericResp 0 .stopTracking .success .startTracking ∈ outsOf hist)
    (by decide +kernel)
  have hans := (hall _ 0 hist s hrun).1 .stopTracking .success .startTracking
    hout
  cases hans

end LocationApiService

end MataDevice.HalDaemon
