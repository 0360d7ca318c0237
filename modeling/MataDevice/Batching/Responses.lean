import MataDevice.Batching.System
import MataDevice.Tracking.Responses

/-!
# Answers to the batching commands

As for the tracking commands, a message or a callback *owes* the client an answer for its session,
and processing it pays the debt by one call of `responseCb` or hands it on to the callback of one
request.

Here this fails in more places. The messages that start, update and stop do not report the errors of
their checks. And an update pays twice: the callback of its stop reports, after it has made the
start that reports as well. So an update is answered once only if the engine refuses the stop, which
keeps the session as it is. The law holds for the runs that do not come to one of these places.
-/

namespace MataDevice.Batching

open List
open MataDevice.Tracking (LocationAPI LocationError EngineLockState LocationSessionKey Owned collect
  collect_append collect_cons perm_collect_settles perm_of_paid perm_of_owed
  perm_collect_of_getElem? filter_mapIdx generateSessionId)

/-! ## Debts -/

/-- The session for which a callback owes an answer. -/
def Callback.owes : Callback → Option LocationSessionKey
  | .startedBatching key _ _ | .stoppedBatching key _ _ _ | .gotBatchedLocations key
  | .startedTrip key _ | .queriedForStart key _ | .restartedForStart key | .stoppedTrip key _ _ =>
    some key
  | .queriedForRestart .. | .restartedTrips .. | .ignore => none

def LocMsg.owes : LocMsg → Option LocationSessionKey
  | .startBatching key _ | .updateBatching key _ | .stopBatching key | .getBatchedLocations key _ =>
    some key
  | .reportCompletedTrips _ => none
  | .locApiResponse callback _ _ => callback.owes

/-- The session that a call answers. -/
def Call.answers : Call → Option LocationSessionKey
  | .responseCb client _ sessionId => some ⟨client, sessionId⟩
  | _ => none

/-- The session that a call answers, or will answer through its callback. -/
def Call.settles (c : Call) : Option LocationSessionKey :=
  c.answers.or (c.response.bind Callback.owes)

theorem Call.answers_or_response (c : Call) : c.answers = none ∨ c.response = none := by
  cases c <;> first | exact Or.inl rfl | exact Or.inr rfl

/-- A command that has to be answered with an error. -/
def LocMsg.Faulty (a : BatchingAdapter) : LocMsg → Prop
  | .startBatching key options =>
    a.startError key options ≠ .success ∨ ∃ value, options.batchingMode = .other value
  | .updateBatching key options => a.updateError key options ≠ .success
  | .stopBatching key => a.stopError key ≠ .success
  | .getBatchedLocations key _ => a.getError key ≠ .success
  | _ => False

/-- A message that is answered exactly once: the checks of a command find nothing wrong, an update
is not for a trip, the engine refuses to stop for an update, and a trip is still there once it has
been stopped. -/
def LocMsg.Answered (a : BatchingAdapter) : LocMsg → Prop
  | .startBatching key options => a.startError key options = .success
  | .updateBatching key options =>
    a.updateError key options = .success ∧ a.isTripSession key.id = false
  | .stopBatching key => a.stopError key = .success
  | .locApiResponse (.stoppedBatching _ _ true _) err _ =>
    a.mEngineLockState = .enabled ∧ err ≠ .success
  | .locApiResponse (.stoppedTrip key restartNeeded _) _ _ =>
    restartNeeded = false ∧ a.isTripSession key.id = true
  | _ => True

instance (a : BatchingAdapter) : DecidablePred (LocMsg.Answered a)
  | .startBatching .. | .stopBatching .. => inferInstanceAs (Decidable (_ = _))
  | .updateBatching .. => inferInstanceAs (Decidable (_ ∧ _))
  | .locApiResponse callback _ _ =>
    match callback with
    | .stoppedBatching _ _ restartNeeded _ =>
      match restartNeeded with
      | true => inferInstanceAs (Decidable (_ ∧ _))
      | false => .isTrue trivial
    | .stoppedTrip .. => inferInstanceAs (Decidable (_ ∧ _))
    | .startedBatching .. | .gotBatchedLocations _ | .startedTrip .. | .queriedForStart ..
    | .restartedForStart _ | .queriedForRestart .. | .restartedTrips .. | .ignore => .isTrue trivial
  | .getBatchedLocations .. | .reportCompletedTrips _ => .isTrue trivial

namespace BatchingAdapter

variable {a : BatchingAdapter} {key : LocationSessionKey} {options : BatchingOptions}

theorem settles_reportResponse (h : a.Registered key.client) (err : LocationError) :
    (a.reportResponse key err).filterMap Call.settles = [key] := by
  rw [Registered] at h
  rw [reportResponse, if_pos h]
  rfl

/-- A restart of the ongoing batch is nobody's debt. -/
theorem settles_restartTripBatching (queryAccumulatedDistance : Bool) (accDist : UInt32) :
    (a.restartTripBatching queryAccumulatedDistance accDist).2.filterMap Call.settles = [] := by
  rw [restartTripBatching]
  split <;> rfl

theorem settles_startTripBatchingMultiplex :
    (a.startTripBatchingMultiplex key options).2.filterMap Call.settles = [key] := by
  rw [startTripBatchingMultiplex]
  split <;> rfl

theorem settles_queriedForStart (h : a.Registered key.client) (err : LocationError)
    (accumulatedDistance : UInt32) :
    (a.queriedForStart key options err accumulatedDistance).2.filterMap Call.settles = [key] := by
  rw [queriedForStart]
  split
  · rfl
  · refine settles_reportResponse (h.of_config ?_) _
    split <;> rfl

theorem settles_queriedForRestart (minRemainingDistance minTBFInterval dist : UInt32) :
    (a.queriedForRestart minRemainingDistance minTBFInterval dist).2.filterMap Call.settles
      = [] := by
  rw [queriedForRestart]
  split <;> rfl

theorem settles_stopBatching (h : a.isBatchingSession key = true) (restartNeeded : Bool) :
    (a.stopBatching key restartNeeded options).2.filterMap Call.settles = [key] := by
  obtain ⟨flpOptions, hfind⟩ := Option.isSome_iff_exists.mp h
  rw [stopBatching, hfind]
  rfl

/-- Without a restart the common end of the stops of a trip reports once. -/
theorem settles_stopTripBatchingMultiplexCommon (h : a.Registered key.client)
    (htrip : a.isTripSession key.id = true) (err : LocationError) :
    ∃ result, a.stopTripBatchingMultiplexCommon key err false options = some result ∧
      result.2.filterMap Call.settles = [key] := by
  obtain ⟨tripSess, hfind⟩ := Option.isSome_iff_exists.mp htrip
  rw [stopTripBatchingMultiplexCommon, hfind]
  refine ⟨_, rfl, ?_⟩
  simp only [Bool.false_eq_true, if_false, List.append_nil, filterMap_append]
  split
  · exact settles_reportResponse (h.of_config rfl) err
  · rw [settles_restartTripBatching, nil_append]
    refine settles_reportResponse (h.of_config ?_) err
    rw [config_restartTripBatching]
    rfl

theorem settles_stopTripBatchingMultiplex (h : a.Registered key.client)
    (htrip : a.isTripSession key.id = true) :
    ∃ result, a.stopTripBatchingMultiplex key false options = some result ∧
      result.2.filterMap Call.settles = [key] := by
  rw [stopTripBatchingMultiplex]
  split
  · exact ⟨_, rfl, rfl⟩
  · exact settles_stopTripBatchingMultiplexCommon h htrip _

theorem settles_startBatchingProc (hknown : a.mIsEngineCapabilitiesKnown = true)
    (h : a.Registered key.client) (hm : a.startError key options = .success) :
    (a.startBatchingProc key options).2.filterMap Call.settles = [key] := by
  rw [startBatchingProc, if_neg (by simp [hknown]), if_pos hm]
  split
  · rfl
  · rfl
  · exact settles_startTripBatchingMultiplex
  · exact settles_reportResponse h _

theorem settles_getBatchedLocationsProc (hknown : a.mIsEngineCapabilitiesKnown = true)
    (h : a.Registered key.client) (count : ℕ) :
    (a.getBatchedLocationsProc key count).2.filterMap Call.settles = [key] := by
  rw [getBatchedLocationsProc, if_neg (by simp [hknown])]
  split
  · split <;> rfl
  · exact settles_reportResponse h _

theorem settles_reportCompletedTripsProc (accumulatedDistance : UInt32) :
    (a.reportCompletedTripsProc accumulatedDistance).2.filterMap Call.settles = [] := by
  rw [reportCompletedTripsProc]
  dsimp only
  split
  · rfl
  · rw [filterMap_append, settles_restartTripBatching, List.append_nil,
      filterMap_eq_nil_iff]
    intro c hc
    rw [reportBatchStatusChange, mem_filterMap] at hc
    obtain ⟨e, -, hc⟩ := hc
    split at hc
    · obtain rfl := Option.some_inj.mp hc
      rfl
    · cases hc

theorem settles_updateBatchingProc (hknown : a.mIsEngineCapabilitiesKnown = true)
    (hm : a.updateError key options = .success) (htrip : a.isTripSession key.id = false) :
    ∃ result, a.updateBatchingProc key options = some result ∧
      result.2.filterMap Call.settles = [key] := by
  rw [updateBatchingProc, if_neg (by simp [hknown]), if_pos hm, if_pos (by simp [htrip])]
  exact ⟨_, rfl, settles_stopBatching (isBatchingSession_of_updateError hm) _⟩

theorem settles_stopBatchingProc (hknown : a.mIsEngineCapabilitiesKnown = true)
    (h : a.Registered key.client) (hm : a.stopError key = .success) :
    ∃ result, a.stopBatchingProc key = some result ∧
      result.2.filterMap Call.settles = [key] := by
  rw [stopBatchingProc, if_neg (by simp [hknown]), if_pos hm]
  split
  · next htrip => exact settles_stopTripBatchingMultiplex h htrip
  · exact ⟨_, rfl, settles_stopBatching (isBatchingSession_of_stopError hm) _⟩

variable {err : LocationError} {accumulatedDistance : UInt32}

/-- The callback of a stop reports once, if there is nothing to be started again. -/
theorem settles_stoppedBatching {flpOptions batchOptions : BatchingOptions} {restartNeeded : Bool} (h : a.Registered key.client)
    (hm : LocMsg.Answered a
      (.locApiResponse (.stoppedBatching key flpOptions restartNeeded batchOptions) err
        accumulatedDistance)) :
    ∃ result, a.locApiResponseProc err accumulatedDistance
        (.stoppedBatching key flpOptions restartNeeded batchOptions) = some result ∧
      result.2.filterMap Call.settles = [key] := by
  rw [locApiResponseProc]
  split
  · exact ⟨_, rfl, settles_reportResponse (h.of_config rfl) err⟩
  · next hfail =>
    cases restartNeeded with
    | true => exact absurd hm hfail
    | false =>
      refine ⟨_, rfl, settles_reportResponse (h.of_config ?_) err⟩
      exact config_ite a rfl rfl

theorem settles_locApiResponseProc {callback : Callback} (h : ∀ key ∈ callback.owes, a.Registered key.client)
    (hm : LocMsg.Answered a (.locApiResponse callback err accumulatedDistance)) :
    ∃ result, a.locApiResponseProc err accumulatedDistance callback = some result ∧
      result.2.filterMap Call.settles = callback.owes.toList := by
  cases callback with
  | startedBatching key options pendingMsg =>
    refine ⟨_, rfl, settles_reportResponse ((h key rfl).of_config ?_) err⟩
    split_ifs <;> rfl
  | stoppedBatching key flpOptions restartNeeded batchOptions =>
    exact settles_stoppedBatching (h key rfl) hm
  | gotBatchedLocations key | restartedForStart key => exact ⟨_, rfl, settles_reportResponse (h key rfl) err⟩
  | startedTrip key options =>
    refine ⟨_, rfl, settles_reportResponse ((h key rfl).of_config ?_) err⟩
    exact config_ite a rfl (config_ite a rfl rfl)
  | queriedForStart key options =>
    exact ⟨_, rfl, settles_queriedForStart (h key rfl) err accumulatedDistance⟩
  | stoppedTrip key restartNeeded batchOptions =>
    obtain ⟨rfl, htrip⟩ := hm
    refine settles_stopTripBatchingMultiplexCommon ((h key rfl).of_config ?_) ?_ err
    · exact config_ite a rfl rfl
    · split <;> exact htrip
  | queriedForRestart queryAccumulatedDistance minRemainingDistance minTBFInterval accDist =>
    exact ⟨_, rfl, settles_queriedForRestart _ _ _⟩
  | restartedTrips accumulatedDistance ongoingTripDistance ongoingTripInterval | ignore =>
    exact ⟨_, rfl, rfl⟩

/-- Processing a message pays its debt or hands it on. -/
theorem settles_proc {msg : LocMsg} (hknown : a.mIsEngineCapabilitiesKnown = true)
    (h : ∀ key ∈ msg.owes, a.Registered key.client) (hm : msg.Answered a) :
    ∃ result, a.proc msg = some result ∧
      result.2.filterMap Call.settles = msg.owes.toList := by
  cases msg with
  | startBatching key options =>
    exact ⟨_, rfl, settles_startBatchingProc hknown (h key rfl) hm⟩
  | updateBatching key options => exact settles_updateBatchingProc hknown hm.1 hm.2
  | stopBatching key => exact settles_stopBatchingProc hknown (h key rfl) hm
  | getBatchedLocations key count =>
    exact ⟨_, rfl, settles_getBatchedLocationsProc hknown (h key rfl) count⟩
  | reportCompletedTrips accumulatedDistance =>
    exact ⟨_, rfl, settles_reportCompletedTripsProc accumulatedDistance⟩
  | locApiResponse callback err accumulatedDistance => exact settles_locApiResponseProc h hm

/-- A faulty command that is answered is answered at once, with an error. -/
theorem proc_of_faulty {msg : LocMsg} (hknown : a.mIsEngineCapabilitiesKnown = true)
    (hm : msg.Answered a) (hfaulty : msg.Faulty a) :
    ∃ key err, msg.owes = some key ∧ err ≠ .success ∧
      a.proc msg = some (a, a.reportResponse key err) := by
  cases msg with
  | startBatching key options =>
    obtain ⟨value, hmode⟩ := hfaulty.resolve_left (not_not_intro hm)
    refine ⟨key, .invalidParameter, rfl, by decide, ?_⟩
    rw [LocMsg.Answered] at hm
    rw [proc, startBatchingProc, if_neg (by simp [hknown]), if_pos hm, hmode]
  | updateBatching key options => exact absurd hm.1 hfaulty
  | stopBatching key => exact absurd hm hfaulty
  | getBatchedLocations key count =>
    refine ⟨key, a.getError key, rfl, hfaulty, ?_⟩
    rw [LocMsg.Faulty] at hfaulty
    rw [proc, getBatchedLocationsProc, if_neg (by simp [hknown]), if_neg hfaulty]
  | reportCompletedTrips accumulatedDistance => exact hfaulty.elim
  | locApiResponse callback err accumulatedDistance => exact hfaulty.elim

end BatchingAdapter

/-! ## Answers and debts of a run -/

/-- What `responseCb` was called with for a command. -/
def responsesTo (n : ℕ) (hist : List (Item Event (Owned Call))) :
    List (LocationAPI × LocationError × ℕ) :=
  (outsOf hist).filterMap fun
    | (owner, .responseCb client err sessionId) =>
      if owner = some n then some (client, err, sessionId) else none
    | _ => none

/-- The owner of a message and the message. -/
def Envelope.owned (e : Envelope) : Owned LocMsg := (e.owner, e.msg)

namespace BatchingSystem

/-- The debts of the queue and of the requests that wait. -/
def outstanding (s : BatchingSystem) : List (Owned LocationSessionKey) :=
  collect LocMsg.owes (s.queue.map Envelope.owned) ++ collect Callback.owes s.awaiting

/-- The commands with their numbers. -/
def numbered (s : BatchingSystem) : List (Owned LocationSessionKey) :=
  s.commands.mapIdx fun n key ↦ (some n, key)

/-- The next message to be processed is answered exactly once. -/
def NextAnswered (s : BatchingSystem) : Event → Prop
  | .proc => ∀ e ∈ s.queue.head?, e.msg.Answered s.adapter
  | _ => True

instance (s : BatchingSystem) : DecidablePred s.NextAnswered
  | .proc => inferInstanceAs (Decidable (∀ e ∈ s.queue.head?, _))
  | .startBatchingCommand .. | .updateBatchingOptionsCommand .. | .stopBatchingCommand ..
  | .getBatchedLocationsCommand .. | .reportCompletedTripsEvent _ | .returnToSender ..
  | .setEngineLockState _ | .travel _ => .isTrue trivial

end BatchingSystem

/-- The answers given and the debts left are the commands. -/
structure Balanced (hist : List (Item Event (Owned Call))) (s : BatchingSystem) : Prop where
  known : s.adapter.mIsEngineCapabilitiesKnown = true
  registered : ∀ key ∈ s.commands, s.adapter.Registered key.client
  perm : (collect Call.answers (outsOf hist) ++ s.outstanding).Perm s.numbered

namespace Balanced

variable {hist : List (Item Event (Owned Call))} {s : BatchingSystem}

theorem initial {adapter : BatchingAdapter} (h : adapter.mIsEngineCapabilitiesKnown = true) :
    Balanced [] (BatchingSystem.initial adapter) where
  known := h
  registered := by simp [BatchingSystem.initial]
  perm := .nil

variable {key : LocationSessionKey} {s' : BatchingSystem} {outs : List (Owned Call)}

/-- What a message owes it owes to a command, and only registered clients give commands. -/
theorem registered_of_owes (h : Balanced hist s) {e : Envelope} (he : e ∈ s.queue) (hkey : e.msg.owes = some key) :
    s.adapter.Registered key.client := by
  have hdebt : (e.owner, key) ∈ s.outstanding := by
    refine mem_append_left _ (mem_filterMap.mpr ⟨e.owned, mem_map_of_mem he, ?_⟩)
    simp [Envelope.owned, hkey]
  obtain ⟨n, hn, heq⟩ := mem_mapIdx.mp (h.perm.subset (mem_append_right _ hdebt))
  obtain ⟨-, rfl⟩ := Prod.mk.inj heq
  exact h.registered _ (getElem_mem hn)

/-- A change of the state that is no processing of a message keeps the balance. -/
theorem of_eq (h : Balanced hist s) (e : Event)
    (hknown : s'.adapter.mIsEngineCapabilitiesKnown = s.adapter.mIsEngineCapabilitiesKnown)
    (hdata : s'.adapter.mClientData = s.adapter.mClientData) (hcommands : s'.commands = s.commands)
    (hperm : s'.outstanding.Perm s.outstanding) : Balanced (hist ++ entry e []) s' where
  known := hknown.trans h.known
  registered := by
    intro key hkey
    rw [BatchingAdapter.Registered, hdata]
    exact h.registered key (hcommands ▸ hkey)
  perm := by
    rw [outsOf_append_entry, List.append_nil, BatchingSystem.numbered, hcommands]
    exact (hperm.append_left _).trans h.perm

/-- A new command is a new debt. -/
theorem give (h : Balanced hist s) (e : Event) {msg : LocMsg} (hm : msg.owes = some key)
    (hs : s.give key msg = some (s', outs)) : Balanced (hist ++ entry e outs) s' := by
  rw [BatchingSystem.give] at hs
  split at hs
  · next hreg =>
    obtain ⟨rfl, rfl⟩ := some_pair_inj hs
    refine ⟨h.known, fun key' hkey' ↦ ?_, ?_⟩
    · rcases mem_append.mp hkey' with hkey' | hkey'
      · exact h.registered key' hkey'
      · rw [mem_singleton.mp hkey']
        exact hreg
    · have hqueue : collect LocMsg.owes
          (List.map Envelope.owned [⟨some s.commands.length, s.odometer, msg⟩]) =
          [(some s.commands.length, key)] := by
        simp [collect, Envelope.owned, hm]
      simp only [outsOf_append_entry, List.append_nil, BatchingSystem.outstanding,
        BatchingSystem.numbered, BatchingSystem.sendMsg, map_append, collect_append, hqueue,
        mapIdx_concat]
      exact perm_of_owed h.perm
  · cases hs

/-- What is done for a message takes the place of its debt. -/
theorem perform (h : Balanced hist s) {queue : List Envelope} {env : Envelope}
    {result : BatchingAdapter × List Call} (e : Event) (hqueue : s.queue = env :: queue)
    (hconfig : result.1.config = s.adapter.config)
    (hdebt : result.2.filterMap Call.settles = env.msg.owes.toList) :
    Balanced (hist ++ entry e ({ s with queue := queue }.perform env result).2)
      ({ s with queue := queue }.perform env result).1 where
  known := (congrArg (fun c ↦ c.2.1) hconfig).trans h.known
  registered := fun key hkey ↦ (h.registered key hkey).of_config hconfig
  perm := by
    have hcollect : collect LocMsg.owes (s.queue.map Envelope.owned) =
        (env.msg.owes.map (env.owner, ·)).toList ++
          collect LocMsg.owes (queue.map Envelope.owned) := by
      rw [hqueue, map_cons, collect_cons]
      rfl
    have hsettles := perm_collect_settles Callback.owes Call.answers_or_response result.2 env.owner
    have hmap : (result.2.filterMap Call.settles).map (env.owner, ·) =
        (env.msg.owes.map (env.owner, ·)).toList := by
      rw [hdebt]
      cases env.msg.owes <;> rfl
    have hperm := h.perm
    simp only [outsOf_append_entry, BatchingSystem.perform, BatchingSystem.outstanding,
      BatchingSystem.numbered, collect_append, hcollect] at hperm ⊢
    exact perm_of_paid (hsettles.trans (.of_eq hmap)) hperm

theorem step (h : Balanced hist s) {e : Event}
    (hg : s.NextAnswered e) (hs : s.step e = some (s', outs)) :
    Balanced (hist ++ entry e outs) s' := by
  cases e with
  | startBatchingCommand client options =>
    have h' : Balanced hist
        { s with mSessionIdCounter := generateSessionId s.mSessionIdCounter } :=
      ⟨h.known, h.registered, h.perm⟩
    exact h'.give _ rfl hs
  | updateBatchingOptionsCommand client id options => exact h.give _ rfl hs
  | stopBatchingCommand client id => exact h.give _ rfl hs
  | getBatchedLocationsCommand client id count => exact h.give _ rfl hs
  | reportCompletedTripsEvent accumulatedDistance =>
    obtain ⟨rfl, rfl⟩ := some_pair_inj hs
    refine h.of_eq _ rfl rfl rfl (.of_eq ?_)
    simp only [BatchingSystem.outstanding, BatchingSystem.sendMsg, map_append, collect_append]
    simp [collect, Envelope.owned, LocMsg.owes]
  | proc =>
    rw [BatchingSystem.step] at hs
    split at hs
    · cases hs
    · next env queue hqueue =>
      obtain ⟨result, hproc, heq⟩ := Option.map_eq_some_iff.mp hs
      obtain ⟨rfl, rfl⟩ := Prod.mk.inj heq
      have hm : env.msg.Answered s.adapter := hg env (by rw [hqueue]; rfl)
      obtain ⟨result', hproc', hdebt⟩ := BatchingAdapter.settles_proc h.known
        (fun key hkey ↦ h.registered_of_owes (hqueue ▸ mem_cons_self) hkey) hm
      obtain rfl := Option.some_inj.mp (hproc.symm.trans hproc')
      exact h.perform _ hqueue (BatchingAdapter.config_proc hproc) hdebt
  | returnToSender i err accumulatedDistance =>
    rw [BatchingSystem.step] at hs
    split at hs
    · cases hs
    · next owner callback hi =>
      obtain ⟨rfl, rfl⟩ := some_pair_inj hs
      -- the answer takes the place of the callback it is for
      refine h.of_eq _ rfl rfl rfl ?_
      simp only [BatchingSystem.outstanding, BatchingSystem.answer, BatchingSystem.sendMsg,
        map_append, collect_append, append_assoc]
      exact (perm_collect_of_getElem? Callback.owes hi).append_left _
  | setEngineLockState state | travel distance =>
    obtain ⟨rfl, rfl⟩ := some_pair_inj hs
    exact h.of_eq _ rfl rfl rfl (.refl _)

end Balanced

/-! ## The law -/

/-- The answers to one command, by their sessions. -/
theorem map_responsesTo (n : ℕ) (hist : List (Item Event (Owned Call))) :
    (responsesTo n hist).map (fun r ↦ (some n, ⟨r.1, r.2.2⟩)) =
      (collect Call.answers (outsOf hist)).filter fun x ↦ x.1 = some n := by
  rw [responsesTo, collect, map_filterMap, filter_filterMap]
  refine filterMap_congr fun x _ ↦ ?_
  obtain ⟨owner, c⟩ := x
  cases c with
  | responseCb client err sessionId =>
    by_cases h : owner = some n <;> simp [h, Call.answers, Option.filter]
  | _ => rfl

namespace Balanced

variable {hist : List (Item Event (Owned Call))} {s : BatchingSystem}

/-- Once nothing is left to be processed, every command has been answered once. -/
theorem responsesTo_eq (h : Balanced hist s) (hq : s.Quiet) {n : ℕ} {key : LocationSessionKey}
    (hn : s.commands[n]? = some key) :
    ∃ err, responsesTo n hist = [(key.client, err, key.id)] := by
  have hperm := h.perm
  have hout : s.outstanding = [] := by
    rw [BatchingSystem.outstanding, hq.1, hq.2]
    rfl
  rw [hout, List.append_nil] at hperm
  have hfilter := hperm.filter fun x ↦ decide (x.1 = some n)
  rw [← map_responsesTo, BatchingSystem.numbered, filter_mapIdx, hn] at hfilter
  obtain ⟨⟨client, err, id⟩, hr, hkey⟩ :=
    map_eq_singleton_iff.mp (perm_singleton.mp hfilter)
  obtain ⟨-, hkey⟩ := Prod.mk.inj hkey
  exact ⟨err, by rw [hr, ← hkey]⟩

/-- A faulty command is answered with an error as soon as it is processed. -/
theorem step_of_faulty (h : Balanced hist s) {e : Envelope} (hq : s.queue.head? = some e)
    (hm : e.msg.Answered s.adapter) (hfaulty : e.msg.Faulty s.adapter) :
    ∃ key err s', e.msg.owes = some key ∧ err ≠ .success ∧
      s.step .proc = some (s', [(e.owner, .responseCb key.client err key.id)]) := by
  obtain ⟨queue, hqueue⟩ := head?_eq_some_iff.mp hq
  obtain ⟨key, err, hkey, herr, hproc⟩ := BatchingAdapter.proc_of_faulty h.known hm hfaulty
  have hreg := h.registered_of_owes (hqueue ▸ mem_cons_self) hkey
  rw [BatchingAdapter.Registered] at hreg
  refine ⟨key, err, ?_⟩
  simp only [BatchingSystem.step, hqueue, hproc, Option.map_some, BatchingSystem.perform,
    BatchingAdapter.reportResponse, if_pos hreg]
  exact ⟨_, hkey, herr, rfl⟩

end Balanced

end MataDevice.Batching
