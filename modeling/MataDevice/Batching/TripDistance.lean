import MataDevice.Batching.System

/-!
# The distance of the trips

The engine counts the distance of its ongoing batch of outdoor trips. The adapter keeps, for each
trip, how far the ongoing batch was when the trip joined it, and how far the trip was when the batch
began. From these and what the engine says about the batch it computes how far the trip has got, and
reports the trips that are completed.

The *base* of the adapter is the reading of the odometer at which the batch began that its fields
are about. They are right if, for every trip, the base and what the batch had covered are together
the start of the trip and what the trip had covered. The engine may be ahead of the adapter: the
answers and reports that wait in the queue are about the batches that were ongoing when they were
sent, and an answer to a restart moves the base on. `Measured` says that what waits in the queue is
right for the base at which it will be processed.

The adapter moves its base in two ways. For a trip that has gone it restarts the batch with the
distance that it knows, and moves the base when the answer comes; what is travelled between the
measurement and the restart is lost. For a trip that joins it takes over the distances of the other
trips as they were reported last, and moves the base before the engine has restarted. The law holds
for the runs in which nothing is lost in this way.
-/

namespace MataDevice.Batching

open List
open MataDevice.Tracking (LocationAPI LocationError EngineLockState LocationSessionKey Owned
  generateSessionId)
open Option (some_inj isSome_iff_exists map_eq_some_iff)
open OrderedMap (find?_eq_some_iff find?_insert find?_mapValues)

/-! ## Readings -/

/-- The distance of the ongoing batch that a message brings and that the adapter will use. -/
def LocMsg.reading? : LocMsg → Option UInt32
  | .reportCompletedTrips accumulatedDistance => some accumulatedDistance
  | .locApiResponse (.queriedForStart _ _) _ accumulatedDistance => some accumulatedDistance
  | .locApiResponse (.restartedTrips accumulatedDistance _ _) _ _ => some accumulatedDistance
  | _ => none

/-- The message is the answer to a restart after a trip has gone. -/
def LocMsg.restarted : LocMsg → Bool
  | .locApiResponse (.restartedTrips ..) _ _ => true
  | _ => false

/-- The engine has done what it was asked for. -/
def LocMsg.Succeeded : LocMsg → Prop
  | .locApiResponse _ err _ => err = .success
  | _ => True

/-- What a message brings is the distance from `b` to where it was sent. -/
def Envelope.Reads (b : ℕ) (e : Envelope) : Prop :=
  ∀ d ∈ e.msg.reading?, UInt32.ofNat e.sentAt = UInt32.ofNat b + d

/-- The base after a message. -/
def Envelope.base (b : ℕ) (e : Envelope) : ℕ := if e.msg.restarted then e.sentAt else b

/-- The base after the messages of a queue. -/
def endBase (b : ℕ) (queue : List Envelope) : ℕ := queue.foldl Envelope.base b

/-- Every message of a queue is right for the base at which it will be processed. -/
def Measured : ℕ → List Envelope → Prop
  | _, [] => True
  | b, e :: queue => e.Reads b ∧ Measured (e.base b) queue

variable {queue : List Envelope} {e : Envelope} {b : ℕ}

theorem measured_concat :
    Measured b (queue ++ [e]) ↔ Measured b queue ∧ e.Reads (endBase b queue) := by
  induction queue generalizing b with
  | nil => simp [Measured, endBase]
  | cons e' queue ih =>
    rw [cons_append, Measured, Measured, ih, and_assoc]
    rfl

theorem endBase_concat :
    endBase b (queue ++ [e]) = e.base (endBase b queue) := by
  rw [endBase, foldl_concat]
  rfl

theorem Envelope.reads_of_none (h : e.msg.reading? = none) : e.Reads b := by
  intro d hd
  rw [h] at hd
  cases hd

theorem LocMsg.restarted_of_none {msg : LocMsg} (h : msg.reading? = none) :
    msg.restarted = false := by
  cases msg with
  | locApiResponse callback err d => cases callback <;> first | rfl | cases h
  | _ => rfl

theorem Envelope.base_of_none (h : e.msg.reading? = none) :
    e.base b = b := by
  rw [Envelope.base, LocMsg.restarted_of_none h]
  rfl

/-- A queue without readings is right for any base and keeps it. -/
theorem measured_of_forall_none
    (h : ∀ e ∈ queue, e.msg.reading? = none) : Measured b queue ∧ endBase b queue = b := by
  induction queue generalizing b with
  | nil => exact ⟨trivial, rfl⟩
  | cons e queue ih =>
    obtain ⟨he, hqueue⟩ := forall_mem_cons.mp h
    have hbase := Envelope.base_of_none (b := b) he
    obtain ⟨hm, hend⟩ := ih (b := b) hqueue
    refine ⟨⟨Envelope.reads_of_none he, hbase.symm ▸ hm⟩, ?_⟩
    rw [endBase, foldl_cons, hbase]
    exact hend

/-! ## The system and its base -/

/-- The adapter has moved its base for a request that the engine still has to execute. -/
def Callback.rebases : Callback → Bool
  | .startedTrip .. | .restartedForStart _ => true
  | _ => false

def Call.rebases (c : Call) : Bool := c.response.any Callback.rebases

/-- The engine is asked for the distance of the ongoing batch. -/
def Callback.queries : Callback → Bool
  | .queriedForStart .. | .queriedForRestart .. => true
  | _ => false

namespace BatchingSystem

variable (s : BatchingSystem)

def Rebasing : Prop := ∃ x ∈ s.awaiting, x.2.rebases = true

instance : Decidable s.Rebasing := inferInstanceAs (Decidable (∃ x ∈ s.awaiting, _))

/-- The base that the adapter has once all messages of the queue are processed. -/
def base : ℕ := if s.Rebasing then s.odometer else s.batchStart

/-- What the engine says about the ongoing batch if it tells the truth. -/
def batchDistance : UInt32 := UInt32.ofNat (s.odometer - s.batchStart)

/-- All requests succeed, what the engine says is true, and no distance needs more than 32 bits. -/
def InDomain : Event → Prop
  | .reportCompletedTripsEvent accumulatedDistance => accumulatedDistance = s.batchDistance
  | .returnToSender i err accumulatedDistance => err = .success ∧
    ∀ x ∈ s.awaiting[i]?, x.2.queries = true → accumulatedDistance = s.batchDistance
  | .proc => ∀ e ∈ s.queue.head?, ∀ t ∈ s.adapter.mTripSessions.entries,
    e.sentAt - s.tripStart t.1 < 2 ^ 32
  | _ => True

/-- The adapter uses nothing that the engine has said before. -/
def NoReadings (queue : List Envelope) : Prop := ∀ e ∈ queue, e.msg.reading? = none

end BatchingSystem

/-- Processing the message makes the adapter start the first of its trips. -/
def LocMsg.StartsFirstTrip (a : BatchingAdapter) : LocMsg → Prop
  | .startBatching _ options => options.batchingMode = .trip ∧ a.mTripSessions.size = 0
  | .locApiResponse (.stoppedBatching _ _ restartNeeded options) _ _ =>
    restartNeeded = true ∧ options.batchingMode = .trip ∧ a.mTripSessions.size = 0
  | .locApiResponse (.stoppedTrip key restartNeeded options) _ _ =>
    restartNeeded = true ∧ options.batchingMode = .trip ∧
      (a.mTripSessions.erase key.id).size = 0
  | _ => False

namespace BatchingSystem

variable (s : BatchingSystem)

/-- What the adapter takes over when a trip joins and makes it restart the batch is up to date. -/
def JoinsInTime (e : Envelope) : LocMsg → Prop
  | .locApiResponse (.queriedForStart key options) err accumulatedDistance =>
    s.adapter.batchForStart options err accumulatedDistance ≠ none →
      e.sentAt = s.odometer ∧ NoReadings s.queue.tail ∧
      ∀ t ∈ s.adapter.mTripSessions.entries, t.1 ≠ key.id →
        t.2.accumulatedDistanceThisTrip = UInt32.ofNat (s.odometer - s.tripStart t.1)
  | _ => True

/-- The answer is about the batch that the adapter will take it to be about. -/
def AnswersInTime : Callback → Prop
  | .queriedForStart .. => s.Rebasing → s.batchStart = s.odometer
  | .restartedTrips accumulatedDistance _ _ =>
    (s.Rebasing → s.batchStart = s.odometer) ∧ accumulatedDistance = s.batchDistance
  | _ => True

/-- Nothing that is travelled is lost. -/
def KeepsDistances : Event → Prop
  | .travel _ => s.Rebasing →
    (∀ t ∈ s.adapter.mTripSessions.entries,
      s.StartAwaited t.1 ∧ s.tripStart t.1 = s.odometer) ∧ NoReadings s.queue
  | .reportCompletedTripsEvent _ => s.Rebasing → s.batchStart = s.odometer
  | .returnToSender i _ _ => ∀ x ∈ s.awaiting[i]?, s.AnswersInTime x.2
  | .proc => ∀ e ∈ s.queue.head?,
    (e.msg.StartsFirstTrip s.adapter → NoReadings s.queue.tail) ∧ s.JoinsInTime e e.msg
  | _ => True

end BatchingSystem

/-! The conditions can be evaluated. -/

instance (queue : List Envelope) : Decidable (BatchingSystem.NoReadings queue) :=
  inferInstanceAs (Decidable (∀ e ∈ queue, _))

instance (a : BatchingAdapter) : DecidablePred (LocMsg.StartsFirstTrip a)
  | .startBatching .. => inferInstanceAs (Decidable (_ ∧ _))
  | .locApiResponse callback _ _ =>
    match callback with
    | .stoppedBatching .. | .stoppedTrip .. => inferInstanceAs (Decidable (_ ∧ _ ∧ _))
    | .startedBatching .. | .gotBatchedLocations _ | .startedTrip .. | .queriedForStart ..
    | .restartedForStart _ | .queriedForRestart .. | .restartedTrips .. | .ignore => .isFalse id
  | .updateBatching .. | .stopBatching _ | .getBatchedLocations .. | .reportCompletedTrips _ =>
    .isFalse id

namespace BatchingSystem

instance (s : BatchingSystem) : DecidablePred s.InDomain
  | .reportCompletedTripsEvent _ => inferInstanceAs (Decidable (_ = _))
  | .returnToSender i _ _ => inferInstanceAs (Decidable (_ ∧ ∀ x ∈ s.awaiting[i]?, _ → _))
  | .proc => inferInstanceAs (Decidable (∀ e ∈ s.queue.head?, ∀ t ∈ s.adapter.mTripSessions.entries, _))
  | .startBatchingCommand .. | .updateBatchingOptionsCommand .. | .stopBatchingCommand ..
  | .getBatchedLocationsCommand .. | .setEngineLockState _ | .travel _ => .isTrue trivial

instance (s : BatchingSystem) (e : Envelope) : DecidablePred (s.JoinsInTime e)
  | .locApiResponse callback _ _ =>
    match callback with
    | .queriedForStart _ _ => inferInstanceAs (Decidable (_ → _))
    | .startedBatching .. | .stoppedBatching .. | .gotBatchedLocations _ | .startedTrip ..
    | .restartedForStart _ | .stoppedTrip .. | .queriedForRestart .. | .restartedTrips ..
    | .ignore => .isTrue trivial
  | .startBatching .. | .updateBatching .. | .stopBatching _ | .getBatchedLocations ..
  | .reportCompletedTrips _ => .isTrue trivial

instance (s : BatchingSystem) : DecidablePred s.AnswersInTime
  | .queriedForStart .. => inferInstanceAs (Decidable (_ → _))
  | .restartedTrips .. => inferInstanceAs (Decidable (_ ∧ _))
  | .startedBatching .. | .stoppedBatching .. | .gotBatchedLocations _ | .startedTrip ..
  | .restartedForStart _ | .stoppedTrip .. | .queriedForRestart .. | .ignore => .isTrue trivial

instance (s : BatchingSystem) : DecidablePred s.KeepsDistances
  | .travel _ => inferInstanceAs (Decidable (_ → _))
  | .reportCompletedTripsEvent _ => inferInstanceAs (Decidable (_ → _))
  | .returnToSender i _ _ => inferInstanceAs (Decidable (∀ x ∈ s.awaiting[i]?, _))
  | .proc => inferInstanceAs (Decidable (∀ e ∈ s.queue.head?, _))
  | .startBatchingCommand .. | .updateBatchingOptionsCommand .. | .stopBatchingCommand ..
  | .getBatchedLocationsCommand .. | .setEngineLockState _ => .isTrue trivial

end BatchingSystem

/-! ## What happens to the trips -/

/-- What a message other than a reading does to the trips: it takes some of them away, or it starts
the first one. -/
inductive TripEffect (first : Prop) (a a' : BatchingAdapter) (calls : List Call) : Prop
  | shrinks (htrips : ∀ id status, a'.mTripSessions.find? id = some status →
      a.mTripSessions.find? id = some status) (hcalls : ∀ c ∈ calls, c.rebases = false)
  | starts (id : ℕ) (hfirst : first) (htrips : ∀ id' status,
      a'.mTripSessions.find? id' = some status → id' = id ∧
        status.accumulatedDistanceOngoingBatch = 0 ∧ status.accumulatedDistanceOnTripRestart = 0)
      (hcalls : some id ∈ calls.map Call.startsTrip)

namespace TripEffect

variable {first first' : Prop} {a a' a'' : BatchingAdapter} {calls calls' : List Call}

theorem of_eq (htrips : a'.mTripSessions = a.mTripSessions)
    (hcalls : ∀ c ∈ calls, c.rebases = false) : TripEffect first a a' calls :=
  .shrinks (fun _ _ h ↦ htrips ▸ h) hcalls

theorem mono (h : TripEffect first a a' calls) (hf : first → first') :
    TripEffect first' a a' calls := by
  cases h with
  | shrinks htrips hcalls => exact .shrinks htrips hcalls
  | starts id hfirst htrips hcalls => exact .starts id (hf hfirst) htrips hcalls

/-- Calls that make the engine begin nothing do not matter. -/
theorem append (h : TripEffect first a a' calls) (hcalls' : ∀ c ∈ calls', c.rebases = false) :
    TripEffect first a a' (calls ++ calls') := by
  cases h with
  | shrinks htrips hcalls =>
    refine .shrinks htrips fun c hc ↦ ?_
    rcases mem_append.mp hc with hc | hc
    · exact hcalls c hc
    · exact hcalls' c hc
  | starts id hfirst htrips hcalls =>
    refine .starts id hfirst htrips ?_
    rw [map_append]
    exact mem_append_left _ hcalls

/-- Taking trips away before does not matter. -/
theorem after (h : TripEffect first a' a'' calls')
    (htrips : ∀ id status, a'.mTripSessions.find? id = some status →
      a.mTripSessions.find? id = some status) (hcalls : ∀ c ∈ calls, c.rebases = false) :
    TripEffect first a a'' (calls ++ calls') := by
  cases h with
  | shrinks htrips' hcalls' =>
    refine .shrinks (fun id status h ↦ htrips id status (htrips' id status h)) fun c hc ↦ ?_
    rcases mem_append.mp hc with hc | hc
    · exact hcalls c hc
    · exact hcalls' c hc
  | starts id hfirst htrips' hcalls' =>
    refine .starts id hfirst htrips' ?_
    rw [map_append]
    exact mem_append_right _ hcalls'

end TripEffect

namespace BatchingAdapter

variable {a : BatchingAdapter} {key : LocationSessionKey} {options : BatchingOptions}
  {first : Prop}

theorem rebases_reportResponse (err : LocationError) :
    ∀ c ∈ a.reportResponse key err, c.rebases = false := by
  intro c hc
  rw [reportResponse] at hc
  split at hc
  · rw [mem_singleton.mp hc]
    rfl
  · cases hc

theorem effect_startBatching (pendingMsg : Bool) :
    TripEffect first a (a.startBatching key options pendingMsg).1
      (a.startBatching key options pendingMsg).2 := by
  refine .of_eq ?_ ?_
  · rw [startBatching]
    dsimp only [saveBatchingSession]
    split <;> rfl
  · intro c hc
    rw [startBatching, mem_singleton] at hc
    rw [hc]
    rfl

theorem effect_startTripBatchingMultiplex :
    TripEffect (a.mTripSessions.size = 0) a (a.startTripBatchingMultiplex key options).1
      (a.startTripBatchingMultiplex key options).2 := by
  rw [startTripBatchingMultiplex]
  split
  · next hzero =>
    refine .starts key.id hzero (fun id' status h ↦ ?_) (by simp [Call.startsTrip, Call.response,
      Callback.startsTrip])
    have htrips : ∀ id, a.mTripSessions.find? id = none := OrderedMap.size_eq_zero_iff.mp hzero
    have hsame : (if a.autoReportBatchingSessionsCount = 0 then a.updateEvtMask true
        else a).mTripSessions = a.mTripSessions := by
      split <;> rfl
    dsimp only [saveBatchingSession] at h
    rw [hsame, find?_insert] at h
    split at h
    · next hid =>
      obtain rfl := some_inj.mp h
      exact ⟨hid, rfl, rfl⟩
    · rw [htrips] at h
      cases h
  · refine .of_eq rfl fun c hc ↦ ?_
    rw [mem_singleton.mp hc]
    rfl

theorem effect_restart :
    TripEffect (options.batchingMode = .trip ∧ a.mTripSessions.size = 0) a
      (a.restart key options).1 (a.restart key options).2 := by
  rw [restart]
  split
  · exact effect_startBatching false
  · exact effect_startBatching false
  · next hm => exact effect_startTripBatchingMultiplex.mono fun hzero ↦ ⟨hm, hzero⟩
  · exact .of_eq rfl (by simp)

theorem mTripSessions_restartTripBatching (queryAccumulatedDistance : Bool) (accDist : UInt32) :
    (a.restartTripBatching queryAccumulatedDistance accDist).1.mTripSessions =
      a.mTripSessions := by
  rw [restartTripBatching]
  split
  · dsimp only
    split <;> rfl
  · rfl

theorem rebases_restartTripBatching (queryAccumulatedDistance : Bool) (accDist : UInt32) :
    ∀ c ∈ (a.restartTripBatching queryAccumulatedDistance accDist).2, c.rebases = false := by
  intro c hc
  rw [restartTripBatching] at hc
  split at hc <;>
  · rw [mem_singleton.mp hc]
    rfl

theorem effect_stopBatching (restartNeeded : Bool) :
    TripEffect first a (a.stopBatching key restartNeeded options).1
      (a.stopBatching key restartNeeded options).2 := by
  rw [stopBatching]
  split
  · exact .of_eq rfl (by simp)
  · refine .of_eq rfl fun c hc ↦ ?_
    rw [mem_singleton.mp hc]
    rfl

variable {restartNeeded : Bool} {err : LocationError} {accumulatedDistance : UInt32}

/-- A trip is gone and its update starts it again. -/
theorem effect_restarted {left : BatchingAdapter × List Call}
    (htrips : left.1.mTripSessions = a.mTripSessions.erase key.id)
    (hcalls : ∀ c ∈ left.2, c.rebases = false) (err : LocationError)
    {restarted : BatchingAdapter × List Call}
    (hr : restarted = if restartNeeded = true then
      (left.1.eraseBatchingSession key).restart key options else (left.1, [])) :
    TripEffect (restartNeeded = true ∧ options.batchingMode = .trip ∧
      (a.mTripSessions.erase key.id).size = 0) a restarted.1
      (left.2 ++ restarted.2 ++ restarted.1.reportResponse key err) := by
  have hsub : ∀ id status, left.1.mTripSessions.find? id = some status →
      a.mTripSessions.find? id = some status := by
    intro id status h
    rw [htrips, OrderedMap.find?_erase] at h
    split at h
    · cases h
    · exact h
  refine TripEffect.append ?_ (rebases_reportResponse err)
  cases restartNeeded with
  | false =>
    subst hr
    exact .shrinks hsub (by simpa using hcalls)
  | true =>
    subst hr
    have heffect : TripEffect (options.batchingMode = .trip ∧
        (left.1.eraseBatchingSession key).mTripSessions.size = 0) (left.1.eraseBatchingSession key)
        ((left.1.eraseBatchingSession key).restart key options).1
        ((left.1.eraseBatchingSession key).restart key options).2 := effect_restart
    refine (heffect.mono fun hfirst ↦ ?_).after hsub hcalls
    exact ⟨rfl, hfirst.1, htrips ▸ hfirst.2⟩

variable {result : BatchingAdapter × List Call}

theorem effect_stopTripBatchingMultiplexCommon
    (hr : a.stopTripBatchingMultiplexCommon key err restartNeeded options = some result) :
    TripEffect (restartNeeded = true ∧ options.batchingMode = .trip ∧
      (a.mTripSessions.erase key.id).size = 0) a result.1 result.2 := by
  rw [stopTripBatchingMultiplexCommon] at hr
  split at hr
  · cases hr
  · next tripSess hfind =>
    obtain rfl := some_inj.mp hr
    refine effect_restarted ?_ ?_ err rfl
    · split
      · rfl
      · exact mTripSessions_restartTripBatching true 0
    · split
      · simp
      · exact rebases_restartTripBatching true 0

theorem effect_stopTripBatchingMultiplex (htrip : a.isTripSession key.id = true)
    (hr : a.stopTripBatchingMultiplex key restartNeeded options = some result) :
    TripEffect first a result.1 result.2 := by
  rw [stopTripBatchingMultiplex] at hr
  split at hr
  · obtain rfl := some_inj.mp hr
    refine .of_eq rfl fun c hc ↦ ?_
    rw [mem_singleton.mp hc]
    rfl
  · next hsize =>
    refine (effect_stopTripBatchingMultiplexCommon hr).mono fun hfirst ↦ absurd ?_ hsize
    -- other trips are left, so that none is the first
    obtain ⟨status, hfind⟩ := isSome_iff_exists.mp htrip
    rw [← OrderedMap.erase_values_eq_nil_iff hfind, OrderedMap.values, map_eq_nil_iff]
    exact length_eq_zero_iff.mp hfirst.2.2

theorem effect_startBatchingProc :
    TripEffect (options.batchingMode = .trip ∧ a.mTripSessions.size = 0) a
      (a.startBatchingProc key options).1 (a.startBatchingProc key options).2 := by
  rw [startBatchingProc]
  split
  · exact .of_eq rfl (by simp)
  split
  · split
    · exact effect_startBatching true
    · exact effect_startBatching true
    · next hm => exact effect_startTripBatchingMultiplex.mono fun hzero ↦ ⟨hm, hzero⟩
    · exact .of_eq rfl (rebases_reportResponse _)
  · exact .of_eq rfl (by simp)

theorem effect_updateBatchingProc (hr : a.updateBatchingProc key options = some result) :
    TripEffect first a result.1 result.2 := by
  rw [updateBatchingProc] at hr
  split at hr
  · obtain rfl := some_inj.mp hr
    exact .of_eq rfl (by simp)
  split at hr
  · split at hr
    · obtain rfl := some_inj.mp hr
      exact effect_stopBatching true
    · next htrip => exact effect_stopTripBatchingMultiplex (by simpa using htrip) hr
  · obtain rfl := some_inj.mp hr
    exact .of_eq rfl (by simp)

theorem effect_stopBatchingProc
    (hr : a.stopBatchingProc key = some result) : TripEffect first a result.1 result.2 := by
  rw [stopBatchingProc] at hr
  split at hr
  · obtain rfl := some_inj.mp hr
    exact .of_eq rfl (by simp)
  split at hr
  · split at hr
    · next htrip => exact effect_stopTripBatchingMultiplex htrip hr
    · obtain rfl := some_inj.mp hr
      exact effect_stopBatching false
  · obtain rfl := some_inj.mp hr
    exact .of_eq rfl (by simp)

theorem effect_getBatchedLocationsProc (count : ℕ) :
    TripEffect first a (a.getBatchedLocationsProc key count).1
      (a.getBatchedLocationsProc key count).2 := by
  rw [getBatchedLocationsProc]
  split
  · exact .of_eq rfl (by simp)
  split
  · split <;>
    · refine .of_eq rfl fun c hc ↦ ?_
      rw [mem_singleton.mp hc]
      rfl
  · exact .of_eq rfl (rebases_reportResponse _)

theorem effect_stoppedBatching {flpOptions : BatchingOptions}
    (hr : a.locApiResponseProc err accumulatedDistance
      (.stoppedBatching key flpOptions restartNeeded options) = some result) :
    TripEffect (restartNeeded = true ∧ options.batchingMode = .trip ∧ a.mTripSessions.size = 0) a
      result.1 result.2 := by
  rw [locApiResponseProc] at hr
  split at hr
  · obtain rfl := some_inj.mp hr
    exact .of_eq rfl (rebases_reportResponse _)
  · obtain rfl := some_inj.mp hr
    refine TripEffect.append ?_ (rebases_reportResponse err)
    have hsame : (if a.autoReportBatchingSessionsCount = 0 ∧
        flpOptions.batchingMode ≠ .noAutoReport then a.updateEvtMask false else a).mTripSessions =
        a.mTripSessions := by
      split <;> rfl
    cases restartNeeded with
    | false => exact .of_eq hsame (by simp)
    | true =>
      refine (effect_restart.mono fun hfirst ↦ ?_).after (fun _ _ h ↦ hsame ▸ h)
        (forall_mem_nil _)
      exact ⟨rfl, hfirst.1, hsame ▸ hfirst.2⟩

/-- What the answers do that bring no reading. -/
theorem effect_locApiResponseProc {callback : Callback}
    (hreading : (LocMsg.locApiResponse callback err accumulatedDistance).reading? = none)
    (herr : err = .success)
    (hr : a.locApiResponseProc err accumulatedDistance callback = some result) :
    TripEffect ((LocMsg.locApiResponse callback err accumulatedDistance).StartsFirstTrip a) a
      result.1 result.2 := by
  subst herr
  cases callback with
  | queriedForStart key options => cases hreading
  | restartedTrips accumulatedDistance ongoingTripDistance ongoingTripInterval => cases hreading
  | startedBatching key options pendingMsg | startedTrip key options =>
    obtain rfl := some_inj.mp hr
    refine .of_eq ?_ (rebases_reportResponse _)
    simp
  | stoppedBatching key flpOptions restartNeeded batchOptions => exact effect_stoppedBatching hr
  | stoppedTrip key restartNeeded batchOptions =>
    rw [locApiResponseProc] at hr
    split at hr
    · have hafter : TripEffect _ a result.1 ([] ++ result.2) :=
        (effect_stopTripBatchingMultiplexCommon hr).after (fun _ _ h ↦ h) (forall_mem_nil _)
      exact hafter
    · exact effect_stopTripBatchingMultiplexCommon hr
  | gotBatchedLocations key | restartedForStart key =>
    obtain rfl := some_inj.mp hr
    exact .of_eq rfl (rebases_reportResponse _)
  | queriedForRestart queryAccumulatedDistance minRemainingDistance minTBFInterval accDist =>
    obtain rfl := some_inj.mp hr
    rw [queriedForRestart]
    split
    · refine .of_eq rfl fun c hc ↦ ?_
      rw [mem_singleton.mp hc]
      rfl
    · exact .of_eq rfl (by simp)
  | ignore =>
    obtain rfl := some_inj.mp hr
    exact .of_eq rfl (by simp)

/-- What the messages do that bring no reading. -/
theorem effect_proc {msg : LocMsg}
    (hreading : msg.reading? = none) (hok : msg.Succeeded) (hr : a.proc msg = some result) :
    TripEffect (msg.StartsFirstTrip a) a result.1 result.2 := by
  cases msg with
  | startBatching key options =>
    obtain rfl := some_inj.mp hr
    exact effect_startBatchingProc
  | updateBatching key options => exact effect_updateBatchingProc hr
  | stopBatching key => exact effect_stopBatchingProc hr
  | getBatchedLocations key count =>
    obtain rfl := some_inj.mp hr
    exact effect_getBatchedLocationsProc count
  | reportCompletedTrips accumulatedDistance => cases hreading
  | locApiResponse callback err accumulatedDistance =>
    exact effect_locApiResponseProc hreading hok hr

/-- A report leaves the trips that are not completed. -/
theorem find?_reportCompletedTripsProc {id : ℕ} {status : TripSessionStatus} :
    (a.reportCompletedTripsProc accumulatedDistance).1.mTripSessions.find? id = some status ↔
      (∃ status', a.mTripSessions.find? id = some status' ∧
        status = status'.accumulate accumulatedDistance) ∧ status.completed = false := by
  have hfold : ∀ (l : List TripSessionStatus) (b : BatchingAdapter),
      (l.foldl noteDropped b).mTripSessions = b.mTripSessions := by
    intro l
    induction l with
    | nil => exact fun _ ↦ rfl
    | cons status l ih => exact fun b ↦ ih _
  have htrips : (a.reportCompletedTripsProc accumulatedDistance).1.mTripSessions =
      (a.mTripSessions.mapValues (·.accumulate accumulatedDistance)).filter
        fun e ↦ !e.2.completed := by
    rw [reportCompletedTripsProc]
    dsimp only
    split
    · rw [hfold]
    · rw [mTripSessions_restartTripBatching, hfold]
  rw [htrips, OrderedMap.find?_filter_eq_some_iff, find?_mapValues,
    map_eq_some_iff, Bool.not_eq_true']
  simp only [eq_comm (a := status)]

theorem rebases_reportCompletedTripsProc (accumulatedDistance : UInt32) :
    ∀ c ∈ (a.reportCompletedTripsProc accumulatedDistance).2, c.rebases = false := by
  intro c hc
  rw [reportCompletedTripsProc] at hc
  dsimp only at hc
  split at hc
  · cases hc
  · rcases mem_append.mp hc with hc | hc
    · rw [reportBatchStatusChange, mem_filterMap] at hc
      obtain ⟨e, -, hc⟩ := hc
      split at hc
      · obtain rfl := some_inj.mp hc
        rfl
      · cases hc
    · exact rebases_restartTripBatching false accumulatedDistance c hc

end BatchingAdapter

/-! ## What is true of every run -/

/-- The fields of a trip are about the batch that began at `b`. -/
def TripSessionStatus.Based (b start : ℕ) (status : TripSessionStatus) : Prop :=
  UInt32.ofNat b + status.accumulatedDistanceOngoingBatch =
    UInt32.ofNat start + status.accumulatedDistanceOnTripRestart

/-- With a reading of the batch the distance of the trip is right. -/
theorem TripSessionStatus.Based.accumulate {b start sentAt : ℕ} {status : TripSessionStatus}
    {d : UInt32} (h : status.Based b start) (hd : UInt32.ofNat sentAt = UInt32.ofNat b + d) :
    UInt32.ofNat start + (status.accumulate d).accumulatedDistanceThisTrip =
      UInt32.ofNat sentAt := by
  rw [Based] at h
  rw [TripSessionStatus.accumulate]
  grind

/-- A trip that begins where the batch begins moves with it. -/
theorem TripSessionStatus.based_self_iff {status : TripSessionStatus} (b b' : ℕ) :
    status.Based b' b' ↔ status.Based b b := by
  simp only [Based]
  grind

/-- What the odometer and the fields of the trips have to do with each other. -/
structure Tracked (s : BatchingSystem) : Prop where
  batchStart_le : s.batchStart ≤ s.odometer
  sorted : s.queue.Pairwise fun e e' ↦ e.sentAt ≤ e'.sentAt
  sentAt_le : ∀ e ∈ s.queue, e.sentAt ≤ s.odometer
  succeeded : ∀ e ∈ s.queue, e.msg.Succeeded
  tripStart_le : ∀ id, s.adapter.isTripSession id = true → s.tripStart id ≤ s.odometer
  tripStart_le_sentAt : ∀ e ∈ s.queue, e.msg.reading? ≠ none →
    ∀ id, s.adapter.isTripSession id = true → s.tripStart id ≤ e.sentAt
  based : ∃ b, Measured b s.queue ∧ endBase b s.queue = s.base ∧
    ∀ id status, s.adapter.mTripSessions.find? id = some status → status.Based b (s.tripStart id)

variable {s : BatchingSystem}

theorem BatchingSystem.base_of_rebasing (h : s.Rebasing) :
    s.base = s.odometer := by
  rw [BatchingSystem.base, if_pos h]

theorem BatchingSystem.base_of_not_rebasing (h : ¬s.Rebasing) :
    s.base = s.batchStart := by
  rw [BatchingSystem.base, if_neg h]

theorem BatchingSystem.StartAwaited.rebasing {id : ℕ} (h : s.StartAwaited id) : s.Rebasing := by
  obtain ⟨x, hx, hid⟩ := mem_map.mp h
  refine ⟨x, hx, ?_⟩
  cases hc : x.2 <;> simp [hc, Callback.startsTrip, Callback.rebases] at hid ⊢

namespace Tracked

variable {s : BatchingSystem}

theorem initial (adapter : BatchingAdapter) : Tracked (.initial adapter) where
  batchStart_le := le_rfl
  sorted := .nil
  sentAt_le := by simp [BatchingSystem.initial]
  succeeded := by simp [BatchingSystem.initial]
  tripStart_le := fun _ _ ↦ le_rfl
  tripStart_le_sentAt := by simp [BatchingSystem.initial]
  based := by
    refine ⟨0, trivial, ?_, by simp [BatchingSystem.initial]⟩
    rw [BatchingSystem.base]
    split <;> rfl

/-- The reading of the batch that the engine gives is right for the base. -/
theorem reads_batchDistance (h : Tracked s) (hb : s.base = s.batchStart) :
    UInt32.ofNat s.odometer = UInt32.ofNat s.base + s.batchDistance := by
  rw [hb, BatchingSystem.batchDistance, ← UInt32.ofNat_add, Nat.add_sub_cancel' h.batchStart_le]

theorem base_eq_batchStart (hr : s.Rebasing → s.batchStart = s.odometer) :
    s.base = s.batchStart := by
  by_cases hreb : s.Rebasing
  · rw [BatchingSystem.base_of_rebasing hreb, hr hreb]
  · exact BatchingSystem.base_of_not_rebasing hreb

/-- A message is sent. -/
theorem send (h : Tracked s) (s' : BatchingSystem) {e : Envelope}
    (hqueue : s'.queue = s.queue ++ [e]) (hsent : e.sentAt = s.odometer)
    (hadapter : s'.adapter.mTripSessions = s.adapter.mTripSessions)
    (hstart : s'.tripStart = s.tripStart) (hod : s'.odometer = s.odometer)
    (hbs : s'.batchStart ≤ s.odometer) (hok : e.msg.Succeeded) (hreads : e.Reads s.base)
    (hbase : s'.base = e.base s.base) : Tracked s' where
  batchStart_le := hod ▸ hbs
  sorted := by
    rw [hqueue, pairwise_append]
    refine ⟨h.sorted, pairwise_singleton .., fun e₁ h₁ e₂ h₂ ↦ ?_⟩
    rw [mem_singleton.mp h₂, hsent]
    exact h.sentAt_le e₁ h₁
  sentAt_le := by
    rw [hqueue, hod]
    intro e' he'
    rcases mem_append.mp he' with he' | he'
    · exact h.sentAt_le e' he'
    · rw [mem_singleton.mp he', hsent]
  succeeded := by
    rw [hqueue]
    intro e' he'
    rcases mem_append.mp he' with he' | he'
    · exact h.succeeded e' he'
    · rwa [mem_singleton.mp he']
  tripStart_le := by
    intro id hid
    rw [hstart, hod]
    refine h.tripStart_le id ?_
    rwa [BatchingAdapter.isTripSession, ← hadapter]
  tripStart_le_sentAt := by
    rw [hqueue]
    intro e' he' hreading id hid
    rw [BatchingAdapter.isTripSession, hadapter] at hid
    rw [hstart]
    rcases mem_append.mp he' with he' | he'
    · exact h.tripStart_le_sentAt e' he' hreading id hid
    · rw [mem_singleton.mp he', hsent]
      exact h.tripStart_le id hid
  based := by
    obtain ⟨b, hm, hend, htrips⟩ := h.based
    refine ⟨b, ?_, ?_, ?_⟩
    · rw [hqueue, measured_concat, hend]
      exact ⟨hm, hreads⟩
    · rw [hqueue, endBase_concat, hend, hbase]
    · rw [hadapter, hstart]
      exact htrips

/-- A command brings no reading. -/
theorem give (h : Tracked s) {s' : BatchingSystem} {outs : List (Owned Call)}
    {key : LocationSessionKey} {msg : LocMsg} (hs : s.give key msg = some (s', outs))
    (hreading : msg.reading? = none) (hok : msg.Succeeded) : Tracked s' := by
  rw [BatchingSystem.give] at hs
  split at hs
  · obtain ⟨rfl, rfl⟩ := some_pair_inj hs
    refine h.send _ rfl rfl rfl rfl rfl h.batchStart_le hok (Envelope.reads_of_none hreading) ?_
    rw [Envelope.base_of_none hreading]
    rfl
  · cases hs

theorem report (h : Tracked s) (hr : s.Rebasing → s.batchStart = s.odometer) :
    Tracked (s.sendMsg none (.reportCompletedTrips s.batchDistance)) := by
  refine h.send _ rfl rfl rfl rfl rfl h.batchStart_le trivial ?_ rfl
  rintro d ⟨⟩
  exact h.reads_batchDistance (base_eq_batchStart hr)

/-- As long as the batch of a trip waits for the engine to begin it, its start moves on. -/
theorem travel (h : Tracked s) {distance : ℕ} (hk : s.KeepsDistances (.travel distance)) :
    Tracked { s with
      odometer := s.odometer + distance
      tripStart := fun id ↦
        if s.StartAwaited id then s.odometer + distance else s.tripStart id } where
  batchStart_le := h.batchStart_le.trans (Nat.le_add_right ..)
  sorted := h.sorted
  sentAt_le := fun e he ↦ (h.sentAt_le e he).trans (Nat.le_add_right ..)
  succeeded := h.succeeded
  tripStart_le := by
    intro id hid
    dsimp only
    split
    · exact le_rfl
    · exact (h.tripStart_le id hid).trans (Nat.le_add_right ..)
  tripStart_le_sentAt := by
    intro e he hreading id hid
    dsimp only
    split
    · next hawait => exact absurd ((hk hawait.rebasing).2 e he) hreading
    · exact h.tripStart_le_sentAt e he hreading id hid
  based := by
    obtain ⟨b, hm, hend, htrips⟩ := h.based
    by_cases hreb : s.Rebasing
    · -- nothing in the queue depends on the base, and all trips move on with it
      obtain ⟨hawait, hnone⟩ := hk hreb
      obtain ⟨hm', hend'⟩ := measured_of_forall_none (b := s.odometer + distance) hnone
      refine ⟨s.odometer + distance, hm', ?_, fun id status hfind ↦ ?_⟩
      · rw [hend', BatchingSystem.base]
        exact (if_pos hreb).symm
      · obtain ⟨hid, hstart⟩ := hawait (id, status) (find?_eq_some_iff.mp hfind)
        have hb : b = s.odometer := by
          rw [← BatchingSystem.base_of_rebasing hreb, ← hend, (measured_of_forall_none hnone).2]
        have hbased := htrips id status hfind
        rw [hstart, hb] at hbased
        dsimp only
        rw [if_pos hid]
        exact (TripSessionStatus.based_self_iff _ s.odometer).mp hbased
    · refine ⟨b, hm, ?_, fun id status hfind ↦ ?_⟩
      · rw [hend, BatchingSystem.base_of_not_rebasing hreb, BatchingSystem.base]
        exact (if_neg hreb).symm
      · dsimp only
        rw [if_neg fun hawait ↦ hreb hawait.rebasing]
        exact htrips id status hfind

variable {owner : Option ℕ} {callback : Callback}

/-- An answer for which the engine has begun nothing leaves the base alone. -/
theorem base_answer {i : ℕ} {d : UInt32}
    (hi : s.awaiting[i]? = some (owner, callback)) (hb : callback.beginsBatch = false) :
    ({ s with awaiting := s.awaiting.eraseIdx i }.answer owner callback .success d).base =
      s.base := by
  obtain ⟨hlt, hget⟩ := List.getElem?_eq_some_iff.mp hi
  have hperm := getElem_cons_eraseIdx_perm hlt
  rw [hget] at hperm
  have hreb : ({ s with awaiting := s.awaiting.eraseIdx i }.answer owner callback .success
      d).Rebasing ↔ s.Rebasing := by
    have hno : callback.rebases = false := by cases callback <;> first | rfl | cases hb
    simp only [BatchingSystem.Rebasing, ← hperm.mem_iff, mem_cons, exists_eq_or_imp, hno]
    simp [BatchingSystem.answer, BatchingSystem.sendMsg]
  simp only [BatchingSystem.base, hreb]
  simp [BatchingSystem.answer, BatchingSystem.sendMsg, hb]

/-- An answer for which the engine has begun a batch puts the base where it is. -/
theorem base_answer_of_beginsBatch {i : ℕ} {d : UInt32} (hb : callback.beginsBatch = true) :
    ({ s with awaiting := s.awaiting.eraseIdx i }.answer owner callback .success d).base =
      s.odometer := by
  rw [BatchingSystem.base]
  split
  · rfl
  · simp [BatchingSystem.answer, hb]

theorem answer (h : Tracked s) {i : ℕ} {d : UInt32} (hi : s.awaiting[i]? = some (owner, callback))
    (hk : s.AnswersInTime callback) (hd : callback.queries = true → d = s.batchDistance) :
    Tracked ({ s with awaiting := s.awaiting.eraseIdx i }.answer owner callback .success d) := by
  have hbs : ({ s with awaiting := s.awaiting.eraseIdx i }.answer owner callback .success
      d).batchStart ≤ s.odometer := by
    rw [BatchingSystem.answer]
    dsimp only
    split
    · exact le_rfl
    · exact h.batchStart_le
  have hsend := h.send ({ s with awaiting := s.awaiting.eraseIdx i }.answer owner callback .success
    d) (e := ⟨owner, s.odometer, .locApiResponse callback .success d⟩) rfl rfl rfl rfl rfl hbs rfl
  cases callback with
  | startedTrip key options | restartedForStart key =>
    -- the adapter has moved its base to where the engine begins now
    have hreb : s.Rebasing := ⟨_, mem_of_getElem? hi, rfl⟩
    refine hsend (Envelope.reads_of_none rfl) ?_
    rw [base_answer_of_beginsBatch rfl, Envelope.base_of_none rfl,
      BatchingSystem.base_of_rebasing hreb]
  | restartedTrips accumulatedDistance ongoingTripDistance ongoingTripInterval =>
    refine hsend ?_ (base_answer_of_beginsBatch rfl)
    rintro d' ⟨⟩
    dsimp only
    rw [hk.2]
    exact h.reads_batchDistance (base_eq_batchStart hk.1)
  | queriedForStart key options =>
    refine hsend ?_ (base_answer hi rfl)
    rintro d' ⟨⟩
    dsimp only
    rw [hd rfl]
    exact h.reads_batchDistance (base_eq_batchStart hk)
  | startedBatching key options pendingMsg | stoppedBatching key flpOptions restartNeeded options
  | gotBatchedLocations key | stoppedTrip key restartNeeded options
  | queriedForRestart query minRemainingDistance minTBFInterval accDist | ignore =>
    exact hsend (Envelope.reads_of_none rfl) (base_answer hi rfl)

/-! ### Processing -/

section Proc

variable {e : Envelope} {queue : List Envelope} {result : BatchingAdapter × List Call}

/-- What is left to be shown of a message that was processed. -/
theorem perform (h : Tracked s) (hqueue : s.queue = e :: queue)
    (hstart : ∀ id, result.1.isTripSession id = true →
      ({ s with queue := queue }.perform e result).1.tripStart id ≤ s.odometer ∧
      ∀ e' ∈ queue, e'.msg.reading? ≠ none →
        ({ s with queue := queue }.perform e result).1.tripStart id ≤ e'.sentAt)
    (hbased : ∃ b, Measured b queue ∧
      endBase b queue = ({ s with queue := queue }.perform e result).1.base ∧
      ∀ id status, result.1.mTripSessions.find? id = some status →
        status.Based b (({ s with queue := queue }.perform e result).1.tripStart id)) :
    Tracked ({ s with queue := queue }.perform e result).1 where
  batchStart_le := h.batchStart_le
  sorted := (pairwise_cons.mp (hqueue ▸ h.sorted)).2
  sentAt_le := fun e' he' ↦ h.sentAt_le e' (hqueue ▸ mem_cons_of_mem _ he')
  succeeded := fun e' he' ↦ h.succeeded e' (hqueue ▸ mem_cons_of_mem _ he')
  tripStart_le := fun id hid ↦ (hstart id hid).1
  tripStart_le_sentAt := fun e' he' hreading id hid ↦ (hstart id hid).2 e' he' hreading
  based := hbased

theorem rebasing_perform :
    ({ s with queue := queue }.perform e result).1.Rebasing ↔
      s.Rebasing ∨ ∃ c ∈ result.2, c.rebases = true := by
  have hcalls : (∃ x ∈ result.2.filterMap fun c ↦ c.response.map (e.owner, ·),
      x.2.rebases = true) ↔ ∃ c ∈ result.2, c.rebases = true := by
    constructor
    · rintro ⟨x, hx, hrebases⟩
      obtain ⟨c, hc, hresponse⟩ := mem_filterMap.mp hx
      obtain ⟨callback, hcallback, rfl⟩ := map_eq_some_iff.mp hresponse
      exact ⟨c, hc, by rw [Call.rebases, hcallback]; exact hrebases⟩
    · rintro ⟨c, hc, hrebases⟩
      rw [Call.rebases] at hrebases
      cases hcallback : c.response with
      | none => simp [hcallback] at hrebases
      | some callback =>
        rw [hcallback] at hrebases
        exact ⟨(e.owner, callback), mem_filterMap.mpr ⟨c, hc, by rw [hcallback]; rfl⟩,
          hrebases⟩
  rw [← hcalls]
  simp only [BatchingSystem.Rebasing, BatchingSystem.perform, mem_append, or_and_right,
    exists_or]

theorem base_perform (hcalls : ∀ c ∈ result.2, c.rebases = false) :
    ({ s with queue := queue }.perform e result).1.base = s.base := by
  have hreb : ({ s with queue := queue }.perform e result).1.Rebasing ↔ s.Rebasing := by
    rw [rebasing_perform, or_iff_left]
    rintro ⟨c, hc, hrebases⟩
    rw [hcalls c hc] at hrebases
    cases hrebases
  simp only [BatchingSystem.base, hreb]
  rfl

theorem rebases_of_startsTrip {c : Call} {id : ℕ} (h : c.startsTrip = some id) :
    c.rebases = true := by
  obtain ⟨callback, hresponse, hid⟩ := Option.bind_eq_some_iff.mp h
  rw [Call.rebases, hresponse]
  cases callback <;> first | rfl | cases hid

/-- As long as no batch begins only a trip that joins gets a start. -/
theorem tripStart_perform (hcalls : ∀ c ∈ result.2, c.rebases = false) (id : ℕ) :
    ({ s with queue := queue }.perform e result).1.tripStart id =
      if e.msg.joinsTrip = some id then e.sentAt else s.tripStart id := by
  have hnone : id ∉ result.2.filterMap Call.startsTrip := by
    intro hid
    obtain ⟨c, hc, hid⟩ := mem_filterMap.mp hid
    have hrebases := hcalls c hc
    rw [rebases_of_startsTrip hid] at hrebases
    cases hrebases
  rw [BatchingSystem.perform]
  exact if_neg hnone

section

variable (h : Tracked s) (hqueue : s.queue = e :: queue)
include h hqueue

/-- The trips that were there keep their base. -/
theorem perform_of_subset
    (hcalls : ∀ c ∈ result.2, c.rebases = false) (hjoins : e.msg.joinsTrip = none)
    (hrestarted : e.msg.restarted = false)
    (htrips : ∀ id status', result.1.mTripSessions.find? id = some status' →
      ∃ status, s.adapter.mTripSessions.find? id = some status ∧
        status'.accumulatedDistanceOngoingBatch = status.accumulatedDistanceOngoingBatch ∧
        status'.accumulatedDistanceOnTripRestart = status.accumulatedDistanceOnTripRestart) :
    Tracked ({ s with queue := queue }.perform e result).1 := by
  have htrip : ∀ id, result.1.isTripSession id = true → s.adapter.isTripSession id = true := by
    intro id hid
    obtain ⟨status', hfind⟩ := isSome_iff_exists.mp hid
    obtain ⟨status, hfind, -⟩ := htrips id status' hfind
    exact isSome_iff_exists.mpr ⟨status, hfind⟩
  have hstart : ∀ id, ({ s with queue := queue }.perform e result).1.tripStart id =
      s.tripStart id := by
    intro id
    rw [tripStart_perform hcalls, hjoins]
    simp
  refine h.perform hqueue (fun id hid ↦ ?_) ?_
  · rw [hstart]
    refine ⟨h.tripStart_le id (htrip id hid), fun e' he' hreading ↦ ?_⟩
    exact h.tripStart_le_sentAt e' (hqueue ▸ mem_cons_of_mem _ he') hreading id (htrip id hid)
  · obtain ⟨b, hm, hend, hbased⟩ := h.based
    rw [hqueue, Measured, Envelope.base, hrestarted] at hm
    rw [hqueue, endBase, foldl_cons, Envelope.base, hrestarted] at hend
    refine ⟨b, hm.2, ?_, fun id status' hfind ↦ ?_⟩
    · rw [base_perform hcalls]
      exact hend
    · obtain ⟨status, hfind, hO, hR⟩ := htrips id status' hfind
      rw [hstart, TripSessionStatus.Based, hO, hR]
      exact hbased id status hfind

/-- A message that brings no reading. -/
theorem perform_of_effect {first : Prop} (hreading : e.msg.reading? = none)
    (heffect : TripEffect first s.adapter result.1 result.2)
    (hfirst : first → BatchingSystem.NoReadings queue) :
    Tracked ({ s with queue := queue }.perform e result).1 := by
  have hjoins : e.msg.joinsTrip = none := by
    cases hmsg : e.msg with
    | locApiResponse callback err d =>
      rw [hmsg] at hreading
      cases callback <;> first | rfl | cases hreading
    | _ => rfl
  cases heffect with
  | shrinks htrips hcalls =>
    exact h.perform_of_subset hqueue hcalls hjoins (LocMsg.restarted_of_none hreading)
      fun id status hfind ↦ ⟨status, htrips id status hfind, rfl, rfl⟩
  | starts id hf htrips hcalls =>
    obtain ⟨c, hc, hid⟩ := mem_map.mp hcalls
    have hreb : ({ s with queue := queue }.perform e result).1.Rebasing :=
      rebasing_perform.mpr (Or.inr ⟨c, hc, rebases_of_startsTrip hid⟩)
    have hstart : ({ s with queue := queue }.perform e result).1.tripStart id = s.odometer := by
      rw [BatchingSystem.perform]
      exact if_pos (mem_filterMap.mpr ⟨c, hc, hid⟩)
    obtain ⟨hm, hend⟩ := measured_of_forall_none (b := s.odometer) (hfirst hf)
    refine h.perform hqueue (fun id' hid' ↦ ?_) ⟨s.odometer, hm, ?_, fun id' status hfind ↦ ?_⟩
    · obtain ⟨status, hfind⟩ := isSome_iff_exists.mp hid'
      rw [(htrips id' status hfind).1, hstart]
      exact ⟨le_rfl, fun e' he' hreading ↦ absurd (hfirst hf e' he') hreading⟩
    · rw [hend, BatchingSystem.base_of_rebasing hreb]
      rfl
    · obtain ⟨rfl, hO, hR⟩ := htrips id' status hfind
      rw [hstart, TripSessionStatus.Based, hO, hR]

variable {d : UInt32} {options : BatchingOptions}

theorem perform_report (hmsg : e.msg = .reportCompletedTrips d) :
    Tracked ({ s with queue := queue }.perform e (s.adapter.reportCompletedTripsProc d)).1 := by
  refine h.perform_of_subset hqueue (BatchingAdapter.rebases_reportCompletedTripsProc d)
    (by rw [hmsg]; rfl) (by rw [hmsg]; rfl) fun id status' hfind ↦ ?_
  obtain ⟨⟨status, hfind₀, rfl⟩, -⟩ := BatchingAdapter.find?_reportCompletedTripsProc.mp hfind
  exact ⟨status, hfind₀, rfl, rfl⟩

/-- The restart after a trip has gone moves the base. -/
theorem perform_restartedTrips {d ongoingTripDistance ongoingTripInterval d' : UInt32}
    (hmsg : e.msg = .locApiResponse (.restartedTrips d ongoingTripDistance ongoingTripInterval)
      .success d') :
    Tracked ({ s with queue := queue }.perform e
      (s.adapter.restartedTrips .success d ongoingTripDistance ongoingTripInterval, [])).1 := by
  have hfind' : ∀ id status', (s.adapter.restartedTrips .success d ongoingTripDistance
      ongoingTripInterval).mTripSessions.find? id = some status' →
      ∃ status, s.adapter.mTripSessions.find? id = some status ∧
        (status.accumulate d).rebase = status' := by
    intro id status' hfind
    rw [BatchingAdapter.restartedTrips, if_pos rfl, find?_mapValues] at hfind
    exact map_eq_some_iff.mp hfind
  have hstart : ∀ id, ({ s with queue := queue }.perform e (s.adapter.restartedTrips .success d
      ongoingTripDistance ongoingTripInterval, [])).1.tripStart id = s.tripStart id := by
    intro id
    rw [tripStart_perform (by simp), hmsg]
    rfl
  refine h.perform hqueue (fun id hid ↦ ?_) ?_
  · obtain ⟨status', hfind⟩ := isSome_iff_exists.mp hid
    obtain ⟨status, hfind, -⟩ := hfind' id status' hfind
    have hid : s.adapter.isTripSession id = true := isSome_iff_exists.mpr ⟨status, hfind⟩
    rw [hstart]
    refine ⟨h.tripStart_le id hid, fun e' he' hreading ↦ ?_⟩
    exact h.tripStart_le_sentAt e' (hqueue ▸ mem_cons_of_mem _ he') hreading id hid
  · obtain ⟨b, hm, hend, hbased⟩ := h.based
    rw [hqueue, Measured] at hm
    have hbase : e.base b = e.sentAt := by rw [Envelope.base, hmsg]; rfl
    rw [hqueue, endBase, foldl_cons, hbase] at hend
    refine ⟨e.sentAt, hbase ▸ hm.2, ?_, fun id status' hfind ↦ ?_⟩
    · rw [base_perform (by simp)]
      exact hend
    · obtain ⟨status, hfind₀, rfl⟩ := hfind' id status' hfind
      have hreads := hm.1 d (by rw [hmsg]; rfl)
      have hacc := (hbased id status hfind₀).accumulate hreads
      rw [hstart, TripSessionStatus.Based]
      simp only [TripSessionStatus.rebase]
      rw [hacc, UInt32.add_zero]

variable {key : LocationSessionKey}

omit h hqueue in
theorem tripStart_perform_join
    (hmsg : e.msg = .locApiResponse (.queriedForStart key options) .success d)
    (hcalls : ∀ c ∈ result.2, c.startsTrip = none) (id : ℕ) :
    ({ s with queue := queue }.perform e result).1.tripStart id =
      if id = key.id then e.sentAt else s.tripStart id := by
  have hnone : id ∉ result.2.filterMap Call.startsTrip := by
    intro hid
    obtain ⟨c, hc, hid⟩ := mem_filterMap.mp hid
    rw [hcalls c hc] at hid
    cases hid
  rw [BatchingSystem.perform]
  dsimp only
  rw [if_neg hnone, hmsg, LocMsg.joinsTrip]
  simp only [some_inj, eq_comm (a := key.id)]

/-- The start of a trip that joins is where the engine was asked. -/
theorem le_of_join {id : ℕ} (hid : id ≠ key.id → s.adapter.isTripSession id = true) :
    (if id = key.id then e.sentAt else s.tripStart id) ≤ s.odometer ∧
      ∀ e' ∈ queue, e'.msg.reading? ≠ none →
        (if id = key.id then e.sentAt else s.tripStart id) ≤ e'.sentAt := by
  split
  · exact ⟨h.sentAt_le e (hqueue ▸ mem_cons_self), fun e' he' _ ↦
      (pairwise_cons.mp (hqueue ▸ h.sorted)).1 e' he'⟩
  · next hne =>
    exact ⟨h.tripStart_le id (hid hne), fun e' he' hreading ↦
      h.tripStart_le_sentAt e' (hqueue ▸ mem_cons_of_mem _ he') hreading id (hid hne)⟩

/-- A trip joins the ongoing batch, which goes on. -/
theorem perform_join (hmsg : e.msg = .locApiResponse (.queriedForStart key options) .success d)
    (htrips : ∀ id, result.1.mTripSessions.find? id = if id = key.id then
      some (BatchingAdapter.newTripSession options d) else s.adapter.mTripSessions.find? id)
    (hcalls : ∀ c ∈ result.2, c.rebases = false) :
    Tracked ({ s with queue := queue }.perform e result).1 := by
  have hstarts : ∀ c ∈ result.2, c.startsTrip = none := by
    intro c hc
    by_contra hne
    obtain ⟨id, hid⟩ := Option.ne_none_iff_exists'.mp hne
    have hrebases := hcalls c hc
    rw [rebases_of_startsTrip hid] at hrebases
    cases hrebases
  have hstart : ∀ id, ({ s with queue := queue }.perform e result).1.tripStart id =
      if id = key.id then e.sentAt else s.tripStart id := tripStart_perform_join hmsg hstarts
  obtain ⟨b, hm, hend, hbased⟩ := h.based
  have hbase : e.base b = b := by rw [Envelope.base, hmsg]; rfl
  rw [hqueue, Measured, hbase] at hm
  rw [hqueue, endBase, foldl_cons, hbase] at hend
  refine h.perform hqueue (fun id hid ↦ ?_) ⟨b, hm.2, ?_, fun id status hfind ↦ ?_⟩
  · rw [hstart]
    refine h.le_of_join hqueue fun hne ↦ ?_
    rwa [BatchingAdapter.isTripSession, htrips, if_neg hne] at hid
  · rw [base_perform hcalls]
    exact hend
  · rw [htrips] at hfind
    rw [hstart]
    split
    · next hid =>
      rw [if_pos hid] at hfind
      obtain rfl := some_inj.mp hfind
      have hreads := hm.1 d (by rw [hmsg]; rfl)
      simp only [TripSessionStatus.Based, BatchingAdapter.newTripSession]
      rw [← hreads, UInt32.add_zero]
    · next hid =>
      rw [if_neg hid] at hfind
      exact hbased id status hfind

/-- A trip joins and the batch begins anew: every trip takes over its distance as it is known. -/
theorem perform_join_restart
    (hmsg : e.msg = .locApiResponse (.queriedForStart key options) .success d)
    (hsent : e.sentAt = s.odometer) (hnone : BatchingSystem.NoReadings queue)
    (hup : ∀ t ∈ s.adapter.mTripSessions.entries, t.1 ≠ key.id →
      t.2.accumulatedDistanceThisTrip = UInt32.ofNat (s.odometer - s.tripStart t.1))
    (htrips : ∀ id, result.1.mTripSessions.find? id = (if id = key.id then
      some (BatchingAdapter.newTripSession options d) else s.adapter.mTripSessions.find? id).map
        TripSessionStatus.rebase)
    (hcalls : ∃ c ∈ result.2, c.rebases = true)
    (hstarts : ∀ c ∈ result.2, c.startsTrip = none) :
    Tracked ({ s with queue := queue }.perform e result).1 := by
  have hstart : ∀ id, ({ s with queue := queue }.perform e result).1.tripStart id =
      if id = key.id then e.sentAt else s.tripStart id := tripStart_perform_join hmsg hstarts
  have hreb : ({ s with queue := queue }.perform e result).1.Rebasing :=
    rebasing_perform.mpr (Or.inr hcalls)
  obtain ⟨hm, hend⟩ := measured_of_forall_none (b := s.odometer) hnone
  refine h.perform hqueue (fun id hid ↦ ?_) ⟨s.odometer, hm, ?_, fun id status hfind ↦ ?_⟩
  · rw [hstart]
    refine h.le_of_join hqueue fun hne ↦ ?_
    rwa [BatchingAdapter.isTripSession, htrips, if_neg hne, Option.isSome_map] at hid
  · rw [hend, BatchingSystem.base_of_rebasing hreb]
    rfl
  · rw [htrips] at hfind
    obtain ⟨status', hfind', rfl⟩ := map_eq_some_iff.mp hfind
    simp only [TripSessionStatus.Based, TripSessionStatus.rebase, hstart, UInt32.add_zero]
    split
    · next hid =>
      rw [if_pos hid] at hfind'
      obtain rfl := some_inj.mp hfind'
      rw [hsent, BatchingAdapter.newTripSession, UInt32.add_zero]
    · next hid =>
      rw [if_neg hid] at hfind'
      rw [hup (id, status') (find?_eq_some_iff.mp hfind') hid, ← UInt32.ofNat_add,
        Nat.add_sub_cancel' (h.tripStart_le id (isSome_iff_exists.mpr ⟨_, hfind'⟩))]

theorem perform_queriedForStart
    (hmsg : e.msg = .locApiResponse (.queriedForStart key options) .success d)
    (hk : s.JoinsInTime e e.msg) :
    Tracked ({ s with queue := queue }.perform e
      (s.adapter.queriedForStart key options .success d)).1 := by
  rw [hmsg, BatchingSystem.JoinsInTime, hqueue] at hk
  rw [BatchingAdapter.queriedForStart]
  split
  · next ongoingTripDistance ongoingTripInterval hbatch =>
    obtain ⟨hsent, hnone, hup⟩ := hk (by rw [hbatch]; simp)
    refine h.perform_join_restart hqueue hmsg hsent hnone hup (fun id ↦ ?_)
      ⟨_, mem_singleton.mpr rfl, rfl⟩ fun c hc ↦ ?_
    · dsimp only
      rw [find?_mapValues, if_pos rfl, find?_insert]
    · rw [mem_singleton.mp hc]
      rfl
  · refine h.perform_join hqueue hmsg (fun id ↦ ?_) (BatchingAdapter.rebases_reportResponse _)
    dsimp only
    rw [if_pos rfl, find?_insert]

end

theorem proc (h : Tracked s) (hk : s.KeepsDistances .proc) {s' : BatchingSystem}
    {outs : List (Owned Call)} (hs : s.step .proc = some (s', outs)) : Tracked s' := by
  rw [BatchingSystem.step] at hs
  split at hs
  · cases hs
  · next e queue hqueue =>
    obtain ⟨result, hproc, heq⟩ := map_eq_some_iff.mp hs
    obtain rfl : ({ s with queue := queue }.perform e result).1 = s' := congrArg Prod.fst heq
    obtain ⟨hfirst, hjoin⟩ := hk e (by rw [hqueue]; rfl)
    have hok := h.succeeded e (hqueue ▸ mem_cons_self)
    by_cases hreading : e.msg.reading? = none
    · refine h.perform_of_effect hqueue hreading
        (BatchingAdapter.effect_proc hreading hok hproc) fun hf ↦ ?_
      have hnone := hfirst hf
      rwa [hqueue] at hnone
    · cases hmsg : e.msg with
      | reportCompletedTrips d =>
        rw [hmsg] at hproc
        obtain rfl := some_inj.mp hproc
        exact h.perform_report hqueue hmsg
      | locApiResponse callback err d =>
        rw [hmsg] at hok hproc
        obtain rfl : err = .success := hok
        cases callback with
        | queriedForStart key options =>
          obtain rfl := some_inj.mp hproc
          exact h.perform_queriedForStart hqueue hmsg hjoin
        | restartedTrips d ongoingTripDistance ongoingTripInterval =>
          obtain rfl := some_inj.mp hproc
          exact h.perform_restartedTrips hqueue hmsg
        | _ =>
          rw [hmsg] at hreading
          exact absurd rfl hreading
      | _ =>
        rw [hmsg] at hreading
        exact absurd rfl hreading

end Proc

theorem step (h : Tracked s) {e : Event} {s' : BatchingSystem} {outs : List (Owned Call)}
    (hd : s.InDomain e) (hk : s.KeepsDistances e) (hs : s.step e = some (s', outs)) :
    Tracked s' := by
  cases e with
  | startBatchingCommand client options =>
    have h' : Tracked { s with mSessionIdCounter := generateSessionId s.mSessionIdCounter } :=
      ⟨h.1, h.2, h.3, h.4, h.5, h.6, h.7⟩
    exact h'.give hs rfl trivial
  | updateBatchingOptionsCommand client id options => exact h.give hs rfl trivial
  | stopBatchingCommand client id => exact h.give hs rfl trivial
  | getBatchedLocationsCommand client id count => exact h.give hs rfl trivial
  | reportCompletedTripsEvent accumulatedDistance =>
    obtain ⟨rfl, rfl⟩ := some_pair_inj hs
    obtain rfl := hd
    exact h.report hk
  | proc => exact h.proc hk hs
  | returnToSender i err accumulatedDistance =>
    rw [BatchingSystem.step] at hs
    split at hs
    · cases hs
    · next owner callback hi =>
      obtain ⟨rfl, rfl⟩ := some_pair_inj hs
      obtain ⟨rfl, hdata⟩ := hd
      exact h.answer hi (hk _ hi) (hdata _ hi)
  | setEngineLockState state =>
    obtain ⟨rfl, rfl⟩ := some_pair_inj hs
    exact ⟨h.1, h.2, h.3, h.4, h.5, h.6, h.7⟩
  | travel distance =>
    obtain ⟨rfl, rfl⟩ := some_pair_inj hs
    exact h.travel hk

end Tracked

/-! ## The law -/

/-- The trips that have covered their distance at a reading of the odometer. -/
def BatchingSystem.arrived (s : BatchingSystem) (reading : ℕ) : List ℕ :=
  (s.adapter.mTripSessions.entries.filter fun t ↦
    t.2.tripDistance.toNat ≤ reading - s.tripStart t.1).map Prod.fst

/-- Which trips are reported as completed, and to whom. -/
def completedOf (outs : List (Owned Call)) : List (LocationAPI × List ℕ) :=
  outs.filterMap fun
    | (_, .tripCompletedCb client completedTripsList) => some (client, completedTripsList)
    | _ => none

theorem completedOf_append (outs outs' : List (Owned Call)) :
    completedOf (outs ++ outs') = completedOf outs ++ completedOf outs' :=
  filterMap_append

theorem completedOf_restartTripBatching (a : BatchingAdapter) (owner : Option ℕ)
    (queryAccumulatedDistance : Bool) (accDist : UInt32) :
    completedOf ((a.restartTripBatching queryAccumulatedDistance accDist).2.map (owner, ·)) =
      [] := by
  rw [BatchingAdapter.restartTripBatching]
  split <;> rfl

theorem completedOf_reportBatchStatusChange (a : BatchingAdapter) (owner : Option ℕ)
    (completedTripsList : List ℕ) :
    completedOf ((a.reportBatchStatusChange completedTripsList).map (owner, ·)) =
      a.mClientData.entries.filterMap fun c ↦
        if c.2.batchingStatusCb then some (c.1, completedTripsList) else none := by
  rw [completedOf, BatchingAdapter.reportBatchStatusChange, filterMap_map,
    filterMap_filterMap]
  refine filterMap_congr fun c _ ↦ ?_
  cases c.2.batchingStatusCb <;> rfl

namespace Tracked

variable (h : Tracked s) (hqueue : s.queue = e :: queue)
include h hqueue

variable {d : UInt32}

/-- The distance of a trip that is reported, as a number. -/
theorem toNat_accumulate (hmsg : e.msg = .reportCompletedTrips d)
    (hd : ∀ t ∈ s.adapter.mTripSessions.entries, e.sentAt - s.tripStart t.1 < 2 ^ 32)
    {t : ℕ × TripSessionStatus} (ht : t ∈ s.adapter.mTripSessions.entries) :
    (t.2.accumulate d).accumulatedDistanceThisTrip.toNat = e.sentAt - s.tripStart t.1 := by
  have hfind : s.adapter.mTripSessions.find? t.1 = some t.2 :=
    find?_eq_some_iff.mpr ht
  obtain ⟨b, hm, -, hbased⟩ := h.based
  rw [hqueue, Measured] at hm
  have hacc := (hbased t.1 t.2 hfind).accumulate (hm.1 d (by rw [hmsg]; rfl))
  have hle : s.tripStart t.1 ≤ e.sentAt :=
    h.tripStart_le_sentAt e (hqueue ▸ mem_cons_self) (by rw [hmsg]; simp [LocMsg.reading?])
      t.1 (isSome_iff_exists.mpr ⟨_, hfind⟩)
  have hdist : UInt32.ofNat e.sentAt =
      UInt32.ofNat (s.tripStart t.1) + UInt32.ofNat (e.sentAt - s.tripStart t.1) := by
    rw [← UInt32.ofNat_add, Nat.add_sub_cancel' hle]
  have heq : (t.2.accumulate d).accumulatedDistanceThisTrip =
      UInt32.ofNat (e.sentAt - s.tripStart t.1) := by
    grind
  rw [heq, UInt32.toNat_ofNat_of_lt' (hd t ht)]

theorem completed_accumulate (hmsg : e.msg = .reportCompletedTrips d)
    (hd : ∀ t ∈ s.adapter.mTripSessions.entries, e.sentAt - s.tripStart t.1 < 2 ^ 32)
    {t : ℕ × TripSessionStatus} (ht : t ∈ s.adapter.mTripSessions.entries) :
    (t.2.accumulate d).completed =
      decide (t.2.tripDistance.toNat ≤ e.sentAt - s.tripStart t.1) := by
  rw [TripSessionStatus.completed, decide_eq_decide, UInt32.le_iff_toNat_le,
    h.toNat_accumulate hqueue hmsg hd ht]
  rfl

/-- The adapter finds the trips that have arrived. -/
theorem map_filter_completed (hmsg : e.msg = .reportCompletedTrips d)
    (hd : ∀ t ∈ s.adapter.mTripSessions.entries, e.sentAt - s.tripStart t.1 < 2 ^ 32) :
    ((s.adapter.mTripSessions.mapValues (·.accumulate d)).filter
      fun t ↦ t.2.completed).entries.map Prod.fst = s.arrived e.sentAt := by
  simp only [OrderedMap.filter, OrderedMap.mapValues, filter_map, map_map,
    BatchingSystem.arrived]
  refine congrArg _ (filter_congr fun t ht ↦ ?_)
  exact h.completed_accumulate hqueue hmsg hd ht

theorem completedOf_report (hmsg : e.msg = .reportCompletedTrips d)
    (hd : ∀ t ∈ s.adapter.mTripSessions.entries, e.sentAt - s.tripStart t.1 < 2 ^ 32) :
    completedOf ((s.adapter.reportCompletedTripsProc d).2.map (e.owner, ·)) =
      if s.arrived e.sentAt = [] then [] else
        s.adapter.mClientData.entries.filterMap fun c ↦
          if c.2.batchingStatusCb then some (c.1, s.arrived e.sentAt) else none := by
  rw [BatchingAdapter.reportCompletedTripsProc]
  dsimp only
  rw [h.map_filter_completed hqueue hmsg hd]
  split
  · rfl
  · rw [map_append, completedOf_append, completedOf_reportBatchStatusChange,
      completedOf_restartTripBatching, List.append_nil]
    have hconfig := congrArg Prod.fst (BatchingAdapter.config_foldl_noteDropped
      { s.adapter with
        mTripSessions := (s.adapter.mTripSessions.mapValues (·.accumulate d)).filter
          fun t ↦ !t.2.completed }
      ((s.adapter.mTripSessions.mapValues (·.accumulate d)).filter
        fun t ↦ t.2.completed).values)
    dsimp only [BatchingAdapter.config] at hconfig
    rw [hconfig]

theorem isTripSession_report (hmsg : e.msg = .reportCompletedTrips d)
    (hd : ∀ t ∈ s.adapter.mTripSessions.entries, e.sentAt - s.tripStart t.1 < 2 ^ 32) (id : ℕ) :
    (s.adapter.reportCompletedTripsProc d).1.isTripSession id = true ↔
      s.adapter.isTripSession id = true ∧ id ∉ s.arrived e.sentAt := by
  have hcompleted : ∀ status, s.adapter.mTripSessions.find? id = some status →
      ((status.accumulate d).completed = false ↔ id ∉ s.arrived e.sentAt) := by
    intro status hfind
    have ht := find?_eq_some_iff.mp hfind
    rw [h.completed_accumulate hqueue hmsg hd ht, decide_eq_false_iff_not, not_iff_not,
      BatchingSystem.arrived, mem_map]
    constructor
    · exact fun hle ↦ ⟨_, mem_filter.mpr ⟨ht, decide_eq_true hle⟩, rfl⟩
    · rintro ⟨⟨id', status'⟩, ht', rfl⟩
      obtain ⟨ht', hle⟩ := mem_filter.mp ht'
      obtain rfl := OrderedMap.eq_of_mem_entries ht ht'
      exact of_decide_eq_true hle
  simp only [BatchingAdapter.isTripSession, isSome_iff_exists,
    BatchingAdapter.find?_reportCompletedTripsProc]
  constructor
  · rintro ⟨status', ⟨status, hfind, rfl⟩, hnot⟩
    exact ⟨⟨status, hfind⟩, (hcompleted status hfind).mp hnot⟩
  · rintro ⟨⟨status, hfind⟩, hnot⟩
    exact ⟨_, ⟨status, hfind, rfl⟩, (hcompleted status hfind).mpr hnot⟩

end Tracked

/-- In a run that loses nothing that is travelled, a report completes exactly the trips that have
covered their distance when it is made, and leaves the others with the distance they have
covered. -/
theorem trip_distance_of_run {adapter : BatchingAdapter} {hist : List (Item Event (Owned Call))}
    {s : BatchingSystem}
    (h : Run BatchingSystem.step (fun s e ↦ s.InDomain e ∧ s.KeepsDistances e)
      (BatchingSystem.initial adapter) hist s)
    {e : Envelope} {d : UInt32} (hq : s.queue.head? = some e)
    (hmsg : e.msg = .reportCompletedTrips d) (hd : s.InDomain .proc) :
    ∃ s' outs, s.step .proc = some (s', outs) ∧
      completedOf outs = (if s.arrived e.sentAt = [] then [] else
        s.adapter.mClientData.entries.filterMap fun c ↦
          if c.2.batchingStatusCb then some (c.1, s.arrived e.sentAt) else none) ∧
      (∀ id, s'.adapter.isTripSession id = true ↔
        s.adapter.isTripSession id = true ∧ id ∉ s.arrived e.sentAt) ∧
      ∀ id status, s'.adapter.mTripSessions.find? id = some status →
        status.accumulatedDistanceThisTrip.toNat = e.sentAt - s'.tripStart id := by
  have ht : Tracked s := h.invariant (I := fun _ s ↦ Tracked s) (Tracked.initial adapter)
    fun ht hg hs ↦ ht.step hg.1 hg.2 hs
  obtain ⟨queue, hqueue⟩ := head?_eq_some_iff.mp hq
  have hd := hd e hq
  refine ⟨({ s with queue := queue }.perform e (s.adapter.reportCompletedTripsProc d)).1,
    (s.adapter.reportCompletedTripsProc d).2.map (e.owner, ·), ?_,
    ht.completedOf_report hqueue hmsg hd, ht.isTripSession_report hqueue hmsg hd,
    fun id status hfind ↦ ?_⟩
  · rw [BatchingSystem.step, hqueue]
    dsimp only
    rw [hmsg]
    rfl
  · have hnot := BatchingAdapter.rebases_reportCompletedTripsProc (a := s.adapter) d
    rw [Tracked.tripStart_perform hnot, hmsg]
    obtain ⟨⟨status', hfind', rfl⟩, -⟩ := BatchingAdapter.find?_reportCompletedTripsProc.mp hfind
    exact ht.toNat_accumulate hqueue hmsg hd (OrderedMap.find?_eq_some_iff.mp hfind')

/-- A second trip joins right after a report, and makes the engine restart; later it is completed
while the first one goes on. -/
theorem trip_distance_of_run_two :
    ∃ hist s e, Run BatchingSystem.step (fun s e ↦ s.InDomain e ∧ s.KeepsDistances e)
      (BatchingSystem.initial sampleAdapter) hist s ∧ s.queue.head? = some e ∧
      s.arrived e.sentAt = [3] ∧ ∃ s' outs, s.step .proc = some (s', outs) ∧
        completedOf outs = [(1, [3])] ∧ s'.adapter.isTripSession 2 = true ∧
        ∀ id status, s'.adapter.mTripSessions.find? id = some status →
          status.accumulatedDistanceThisTrip.toNat = e.sentAt - s'.tripStart id := by
  obtain ⟨hist, s, hrun, hq, harrived, hclients, htrip, hd⟩ :=
    Run.exists_of_runEvents BatchingSystem.step
    (fun s e ↦ s.InDomain e ∧ s.KeepsDistances e) (BatchingSystem.initial sampleAdapter)
    [.startBatchingCommand 1 (sampleOptions 10 500 .trip), .proc, .travel 7,
      .returnToSender 0 .success 0, .proc, .travel 100, .reportCompletedTripsEvent 100, .proc,
      .startBatchingCommand 1 (sampleOptions 10 150 .trip), .proc, .returnToSender 0 .success 100,
      .proc, .returnToSender 0 .success 0, .proc, .travel 160, .reportCompletedTripsEvent 160]
    (fun _ s ↦ s.queue.head? = some ⟨none, 267, .reportCompletedTrips 160⟩ ∧
      s.arrived 267 = [3] ∧ s.adapter.mClientData.entries = sampleAdapter.mClientData.entries ∧
      s.adapter.isTripSession 2 = true ∧ s.InDomain .proc) (by decide +kernel)
  obtain ⟨s', outs, hstep, hcompleted, htrips, hdist⟩ := trip_distance_of_run hrun hq rfl hd
  refine ⟨hist, s, _, hrun, hq, harrived, s', outs, hstep, ?_, ?_, hdist⟩
  · rw [hcompleted, harrived, hclients]
    decide
  · rw [htrips, harrived]
    exact ⟨htrip, by decide⟩

/-- A second trip joins after 100 m without a report, and makes the engine restart: the 100 m of the
first trip are lost, and after 500 m it is not completed. -/
theorem not_trip_distance :
    ∃ hist s, Run BatchingSystem.step BatchingSystem.InDomain
      (BatchingSystem.initial sampleAdapter) hist s ∧
      s.queue.head? = some ⟨none, 500, .reportCompletedTrips 400⟩ ∧ s.InDomain .proc ∧
      s.arrived 500 = [2, 3] ∧ ∃ s' outs, s.step .proc = some (s', outs) ∧
        completedOf outs = [(1, [3])] ∧ s'.adapter.isTripSession 2 = true ∧
        s'.tripStart 2 = 0 ∧ (s'.adapter.mTripSessions.find? 2).map
          (fun status ↦ status.accumulatedDistanceThisTrip) = some 400 := by
  obtain ⟨hist, s, hrun, hs⟩ := Run.exists_of_runEvents BatchingSystem.step
    BatchingSystem.InDomain (BatchingSystem.initial sampleAdapter)
    [.startBatchingCommand 1 (sampleOptions 10 500 .trip), .proc, .returnToSender 0 .success 0,
      .proc, .travel 100, .startBatchingCommand 1 (sampleOptions 10 150 .trip), .proc,
      .returnToSender 0 .success 100, .proc, .returnToSender 0 .success 0, .proc, .travel 400,
      .reportCompletedTripsEvent 400]
    (fun _ s ↦ decide (s.queue.head? = some ⟨none, 500, .reportCompletedTrips 400⟩ ∧
      s.InDomain .proc ∧ s.arrived 500 = [2, 3]) &&
      (s.step .proc).any fun (r : BatchingSystem × List (Owned Call)) ↦
        decide (completedOf r.2 = [(1, [3])] ∧ r.1.adapter.isTripSession 2 = true ∧
          r.1.tripStart 2 = 0 ∧ (r.1.adapter.mTripSessions.find? 2).map
            (fun status ↦ status.accumulatedDistanceThisTrip) = some 400)) (by decide +kernel)
  obtain ⟨hs, hstep⟩ := Bool.and_eq_true_iff.mp hs
  obtain ⟨hq, hd, harrived⟩ := of_decide_eq_true hs
  cases hr : s.step .proc with
  | none => simp [hr] at hstep
  | some r =>
    rw [hr] at hstep
    exact ⟨hist, s, hrun, hq, hd, harrived, r.1, r.2, hr, of_decide_eq_true hstep⟩

end MataDevice.Batching
