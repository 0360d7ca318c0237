import MataDevice.Batching.System

/-!
# Stops that the engine refuses

A stop, and an update as well, erases the session before the engine has answered, and the callback
puts the session back when the answer is an error. What it puts back are not the options that the
session had but those that the request was made with: the options of the update, or, for a stop, the
options that the constructor without arguments makes. The session is as it was exactly when the two
are the same.
-/

namespace MataDevice

namespace OrderedMap

variable {κ α : Type} [LinearOrder κ] {m m' : OrderedMap κ α} {k : κ} {v : α}

theorem eq_of_entries (h : m.entries = m'.entries) : m = m' := by
  cases m
  cases m'
  cases h
  rfl

/-- What is set again after it was erased is as it was exactly when it had that value. -/
theorem insert_erase_eq_iff : (m.erase k).insert k v = m ↔ m.find? k = some v := by
  constructor
  · intro h
    rw [← h, find?_insert, if_pos rfl]
  · intro h
    have hperm : ((m.erase k).insert k v).entries.Perm m.entries := by
      refine (List.perm_ext_iff_of_nodup nodup_entries nodup_entries).mpr fun e ↦ ?_
      rw [← find?_eq_some_iff, ← find?_eq_some_iff, find?_insert, find?_erase]
      by_cases hk : e.1 = k
      · rw [if_pos hk, hk, h]
      · rw [if_neg hk, if_neg hk]
    exact eq_of_entries (hperm.eq_of_pairwise (fun e e' _ _ h h' ↦ absurd h' h.not_gt)
      ((m.erase k).insert k v).sorted m.sorted)

end OrderedMap

namespace Batching

open MataDevice.Tracking (LocationAPI LocationError EngineLockState LocationSessionKey)

/-- The options that a command to stop or to update the session gives the request to the engine -/
def LocMsg.stopOptions (key : LocationSessionKey) : LocMsg → Option BatchingOptions
  | .stopBatching key' => if key' = key then some .init else none
  | .updateBatching key' options => if key' = key then some options else none
  | _ => none

namespace BatchingAdapter

variable {a : BatchingAdapter} {key : LocationSessionKey}

/-- Of a session that is no trip, either command makes the same request. -/
theorem stopBatching_of_proc {msg : LocMsg} {options : BatchingOptions}
    (hmsg : msg.stopOptions key = some options) (htrip : a.isTripSession key.id = false)
    {result : BatchingAdapter × List Call} (hproc : a.proc msg = some result)
    (hcalls : result.2 ≠ []) :
    ∃ restartNeeded, result = a.stopBatching key restartNeeded options := by
  cases msg with
  | stopBatching key' =>
    obtain ⟨rfl, hoptions⟩ := Option.ite_none_right_eq_some.mp hmsg
    cases Option.some_inj.mp hoptions
    simp only [proc, stopBatchingProc, htrip, Bool.false_eq_true, if_false] at hproc
    split at hproc
    · cases hproc
      exact absurd rfl hcalls
    · split at hproc
      · exact ⟨false, (Option.some_inj.mp hproc).symm⟩
      · cases hproc
        exact absurd rfl hcalls
  | updateBatching key' options' =>
    obtain ⟨rfl, hoptions⟩ := Option.ite_none_right_eq_some.mp hmsg
    cases Option.some_inj.mp hoptions
    simp only [proc, updateBatchingProc, htrip, Bool.not_false, if_true] at hproc
    split at hproc
    · cases hproc
      exact absurd rfl hcalls
    · split at hproc
      · exact ⟨true, (Option.some_inj.mp hproc).symm⟩
      · cases hproc
        exact absurd rfl hcalls
  | _ => cases hmsg

/-- The request is made of a session that the adapter has, and erases it. -/
theorem stopBatching_eq_of_mem {restartNeeded : Bool} {options : BatchingOptions} {id : ℕ}
    {callback : Callback}
    (hmem : .stopBatching id callback ∈ (a.stopBatching key restartNeeded options).2) :
    ∃ flpOptions, a.mBatchingSessions.find? key = some flpOptions ∧
      (a.stopBatching key restartNeeded options).1 = a.eraseBatchingSession key ∧
      callback = .stoppedBatching key flpOptions restartNeeded options := by
  cases hfind : a.mBatchingSessions.find? key with
  | none => simp [stopBatching, hfind] at hmem
  | some flpOptions =>
    have hstop : a.stopBatching key restartNeeded options = (a.eraseBatchingSession key,
        [.stopBatching key.id (.stoppedBatching key flpOptions restartNeeded options)]) := by
      rw [stopBatching, hfind]
    rw [hstop, List.mem_singleton, Call.stopBatching.injEq] at hmem
    exact ⟨flpOptions, rfl, congrArg Prod.fst hstop, hmem.2⟩

/-- After an error the callback sets the options of the request. -/
theorem locApiResponseProc_stoppedBatching_of_error {flpOptions options : BatchingOptions}
    {restartNeeded : Bool} {err : LocationError} {accumulatedDistance : UInt32}
    (hlock : a.mEngineLockState = .enabled) (herr : err ≠ .success) :
    a.locApiResponseProc err accumulatedDistance
        (.stoppedBatching key flpOptions restartNeeded options) =
      some (a.saveBatchingSession key options,
        (a.saveBatchingSession key options).reportResponse key err) :=
  if_pos ⟨hlock, herr⟩

end BatchingAdapter

/-- For a command to stop or to update a session that is no trip, which made a request that the
engine answers with an error while it is not locked and nothing else has changed the sessions: they
and the event mask are what they were before the command exactly when the session had the options
that the request was made with. -/
theorem sessions_after_failed_stop_iff {a a' b b' : BatchingAdapter} {key : LocationSessionKey}
    {msg : LocMsg} {options : BatchingOptions} {calls calls' : List Call} {id : ℕ}
    {callback : Callback} {err : LocationError} {accumulatedDistance : UInt32}
    (hmsg : msg.stopOptions key = some options) (htrip : a.isTripSession key.id = false)
    (hproc : a.proc msg = some (a', calls)) (hrequest : .stopBatching id callback ∈ calls)
    (hsessions : b.mBatchingSessions = a'.mBatchingSessions)
    (hbit : b.batchFullBit = a'.batchFullBit) (hlock : b.mEngineLockState = .enabled)
    (herr : err ≠ .success)
    (hanswer : b.proc (.locApiResponse callback err accumulatedDistance) = some (b', calls')) :
    (b'.mBatchingSessions = a.mBatchingSessions ∧ b'.batchFullBit = a.batchFullBit) ↔
      a.mBatchingSessions.find? key = some options := by
  obtain ⟨restartNeeded, hresult⟩ := BatchingAdapter.stopBatching_of_proc hmsg htrip hproc
    (List.ne_nil_of_mem hrequest)
  have hcalls : calls = (a.stopBatching key restartNeeded options).2 := congrArg Prod.snd hresult
  obtain ⟨flpOptions, -, herased, rfl⟩ :=
    BatchingAdapter.stopBatching_eq_of_mem (hcalls ▸ hrequest)
  have ha' : a' = a.eraseBatchingSession key := (congrArg Prod.fst hresult).trans herased
  have hb' : b' = b.saveBatchingSession key options := by
    rw [BatchingAdapter.proc,
      BatchingAdapter.locApiResponseProc_stoppedBatching_of_error hlock herr] at hanswer
    exact (congrArg Prod.fst (Option.some_inj.mp hanswer)).symm
  have hbit' : b'.batchFullBit = a.batchFullBit := by
    rw [hb', show (b.saveBatchingSession key options).batchFullBit = b.batchFullBit from rfl, hbit,
      ha']
    rfl
  have hsessions' :
      b'.mBatchingSessions = (a.mBatchingSessions.erase key).insert key options := by
    rw [hb', show (b.saveBatchingSession key options).mBatchingSessions =
      b.mBatchingSessions.insert key options from rfl, hsessions, ha']
    rfl
  rw [hsessions', and_iff_left hbit', OrderedMap.insert_erase_eq_iff]

/-- An adapter with a routine session -/
def routineAdapter : BatchingAdapter :=
  { sampleAdapter with
    mBatchingSessions := OrderedMap.empty.insert ⟨1, 2⟩ (sampleOptions 5 0 .routine)
    batchFullBit := true }

/-- An update to the options that the session has already is undone. -/
theorem sessions_after_failed_stop_iff_update : ∃ a' calls b' calls',
    routineAdapter.proc (.updateBatching ⟨1, 2⟩ (sampleOptions 5 0 .routine)) = some (a', calls) ∧
    a'.proc (.locApiResponse (.stoppedBatching ⟨1, 2⟩ (sampleOptions 5 0 .routine) true
      (sampleOptions 5 0 .routine)) .generalFailure 0) = some (b', calls') ∧
    b'.mBatchingSessions = routineAdapter.mBatchingSessions ∧
      b'.batchFullBit = routineAdapter.batchFullBit :=
  ⟨_, _, _, _, rfl, rfl, (@sessions_after_failed_stop_iff routineAdapter _ _ _ ⟨1, 2⟩
    (.updateBatching ⟨1, 2⟩ (sampleOptions 5 0 .routine)) (sampleOptions 5 0 .routine) _ _ 2
    (.stoppedBatching ⟨1, 2⟩ (sampleOptions 5 0 .routine) true (sampleOptions 5 0 .routine))
    .generalFailure 0 rfl rfl rfl (List.mem_singleton.mpr rfl) rfl rfl rfl (by decide) rfl).mpr rfl⟩

/-- The stop of a routine session fails, and the session has options of no size. -/
theorem not_sessions_after_failed_stop :
    routineAdapter.isTripSession 2 = false ∧ ∃ a' calls b' calls',
    routineAdapter.proc (.stopBatching ⟨1, 2⟩) = some (a', calls) ∧
    .stopBatching 2 (.stoppedBatching ⟨1, 2⟩ (sampleOptions 5 0 .routine) false .init) ∈ calls ∧
    a'.mEngineLockState = .enabled ∧
    a'.proc (.locApiResponse (.stoppedBatching ⟨1, 2⟩ (sampleOptions 5 0 .routine) false .init)
      .generalFailure 0) = some (b', calls') ∧
    b'.mBatchingSessions ≠ routineAdapter.mBatchingSessions := by
  refine ⟨rfl, _, _, _, _, rfl, List.mem_singleton.mpr rfl, rfl, rfl, fun h ↦ ?_⟩
  have hfind := congrArg (fun m ↦ (m.find? ⟨1, 2⟩).map BatchingOptions.size) h
  revert hfind
  decide

end Batching

end MataDevice
