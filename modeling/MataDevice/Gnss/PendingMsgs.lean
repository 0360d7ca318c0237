import Mathlib.Data.List.TakeWhile
import MataDevice.Lib.History
import MataDevice.Tracking.Adapter

/-!
# Messages that wait for the engine

As long as the capabilities of the engine are not known, the commands of `GnssAdapter` that depend
on them put a copy of their message into `mPendingMsgs`. When the engine comes up its message makes
the capabilities known, and if the engine is enabled it hands the messages that wait to `sendMsg`
again.

The engine comes up again whenever the modem restarts. `GnssAdapter` does not clear `mPendingMsgs`
after it has replayed them, unlike `BatchingAdapter`, so that the same messages are replayed again,
after the message task has deleted them. So the law holds for the runs in which no engine up event
that finds the engine enabled comes to messages that have been replayed before.

A message is an object that `new` makes; the objects are numbered in the order in which they are
made.
-/

namespace MataDevice.Gnss

open List
open MataDevice.Tracking (EngineLockState)

/-- The messages of the adapter, as far as they depend on the capabilities. -/
inductive LocMsg
  | gnssUpdateConfig
  | gnssGetConfig
  | gnssUpdateSvTypeConfig
  | gnssGetSvTypeConfig
  | gnssResetSvTypeConfig
  | requestCapabilities
  | startTracking (minDistance : UInt32)
  | updateTracking (minDistance : UInt32)
  | handleEngineUpEvent
  /-- a message that does not ask for the capabilities -/
  | other
  deriving DecidableEq, Repr

/-- Whether `proc` puts a copy of the message into `mPendingMsgs` and does nothing else. -/
def LocMsg.waits (isEngineCapabilitiesKnown : Bool) : LocMsg → Bool
  | .gnssUpdateConfig | .gnssGetConfig | .gnssUpdateSvTypeConfig | .gnssGetSvTypeConfig
  | .gnssResetSvTypeConfig | .requestCapabilities => !isEngineCapabilitiesKnown
  -- only distance based tracking needs to know the capabilities
  | .startTracking minDistance | .updateTracking minDistance =>
    !isEngineCapabilitiesKnown && decide (minDistance > 0)
  | .handleEngineUpEvent | .other => false

structure GnssAdapter where
  mIsEngineCapabilitiesKnown : Bool
  /-- `LocApiBase::mEngineLockState` -/
  mEngineLockState : EngineLockState
  mPendingMsgs : List ℕ
  /-- The queue of the message task. -/
  queue : List ℕ
  /-- The messages that have not been deleted. -/
  messages : ℕ → Option LocMsg
  /-- How many messages have been made. -/
  made : ℕ
  /-- The messages of `mPendingMsgs` that have been handed to `sendMsg`. -/
  replayed : List ℕ

inductive Event
  /-- A command, or any other call that sends a message. -/
  | command (msg : LocMsg)
  | handleEngineUpEvent
  | setEngineLockState (state : EngineLockState)
  /-- The message task processes the next message and deletes it. -/
  | proc
  deriving DecidableEq, Repr

inductive Call
  | sendMsg (msg : ℕ)
  /-- A message is put into `mPendingMsgs`. -/
  | waits (msg : ℕ)
  /-- The message of an engine up event is processed, and finds the engine enabled or not. -/
  | engineUp (enabled : Bool)
  /-- A message is processed to its end. -/
  | processed (msg : ℕ)
  deriving DecidableEq, Repr

namespace GnssAdapter

variable (a : GnssAdapter)

/-- `new` for a message, whose number is the number of those made before. -/
def newMsg (msg : LocMsg) : GnssAdapter :=
  { a with
    messages := fun n ↦ if n = a.made then some msg else a.messages n
    made := a.made + 1 }

def sendMsg (msg : ℕ) : GnssAdapter := { a with queue := a.queue ++ [msg] }

def deleteMsg (msg : ℕ) : GnssAdapter :=
  { a with messages := fun n ↦ if n = msg then none else a.messages n }

/-- `proc` of the message of an engine up event. -/
def engineUpProc : GnssAdapter × List Call :=
  let a := { a with mIsEngineCapabilitiesKnown := true }
  if a.mEngineLockState = .enabled then
    ({ a with
        queue := a.queue ++ a.mPendingMsgs
        replayed := a.replayed ++ a.mPendingMsgs },
      .engineUp true :: a.mPendingMsgs.map .sendMsg)
  else (a, [.engineUp false])

/-- `proc` of a message. -/
def proc (n : ℕ) (msg : LocMsg) : GnssAdapter × List Call :=
  if msg.waits a.mIsEngineCapabilitiesKnown then
    ({ a.newMsg msg with mPendingMsgs := a.mPendingMsgs ++ [a.made] }, [.waits a.made])
  else
    match msg with
    | .handleEngineUpEvent => a.engineUpProc
    | _ => (a, [.processed n])

/-- Nothing follows where the message that comes next has been deleted. -/
def step : Event → Option (GnssAdapter × List Call)
  | .command msg => some ((a.newMsg msg).sendMsg a.made, [.sendMsg a.made])
  | .handleEngineUpEvent =>
    some ((a.newMsg .handleEngineUpEvent).sendMsg a.made, [.sendMsg a.made])
  | .setEngineLockState state => some ({ a with mEngineLockState := state }, [])
  | .proc =>
    match a.queue with
    | [] => none
    | n :: queue => (a.messages n).map fun msg ↦
      let result := { a with queue := queue }.proc n msg
      (result.1.deleteMsg n, result.2)

/-- The adapter before the first command; another adapter may have got the capabilities. -/
def initial (isEngineCapabilitiesKnown : Bool) (state : EngineLockState) : GnssAdapter where
  mIsEngineCapabilitiesKnown := isEngineCapabilitiesKnown
  mEngineLockState := state
  mPendingMsgs := []
  queue := []
  messages := fun _ ↦ none
  made := 0
  replayed := []

/-- An engine up event that finds the engine enabled does not come to messages that have been
replayed before. -/
def ReplaysFresh : Event → Prop
  | .proc => ∀ n ∈ a.queue.head?, a.messages n = some .handleEngineUpEvent →
    a.mEngineLockState = .enabled → ∀ msg ∈ a.mPendingMsgs, msg ∉ a.replayed
  | _ => True

instance : DecidablePred a.ReplaysFresh
  | .proc => inferInstanceAs (Decidable (∀ n ∈ a.queue.head?, _))
  | .command _ | .handleEngineUpEvent | .setEngineLockState _ => .isTrue trivial

end GnssAdapter

/-! ## What a run has done with the messages that wait -/

/-- The messages that were put into `mPendingMsgs`. -/
def waitingOf (calls : List Call) : List ℕ :=
  calls.filterMap fun
    | .waits msg => some msg
    | _ => none

/-- Since a message was put into `mPendingMsgs`, an engine up event has found the engine enabled. -/
def EnabledSince (msg : ℕ) (calls : List Call) : Prop :=
  .engineUp true ∈ calls.dropWhile (· ≠ .waits msg)

instance (msg : ℕ) (calls : List Call) : Decidable (EnabledSince msg calls) :=
  inferInstanceAs (Decidable (_ ∈ _))

/-- Where the messages that wait are. -/
structure Accounted (hist : List (Item Event Call)) (a : GnssAdapter) : Prop where
  waiting : waitingOf (outsOf hist) = a.mPendingMsgs
  nodup : a.mPendingMsgs.Nodup
  lt_made : ∀ msg ∈ a.mPendingMsgs, msg < a.made
  sent_lt_made : ∀ msg, .sendMsg msg ∈ outsOf hist → msg < a.made
  not_up : a.mIsEngineCapabilitiesKnown = false → ∀ enabled, .engineUp enabled ∉ outsOf hist
  fresh : .engineUp true ∉ outsOf hist →
    a.replayed = [] ∧ ∀ msg ∈ a.mPendingMsgs, .sendMsg msg ∉ outsOf hist
  replayed : .engineUp true ∈ outsOf hist →
    a.replayed = a.mPendingMsgs ∧
      ∀ msg ∈ a.mPendingMsgs, (outsOf hist).count (.sendMsg msg) = 1 ∧
        EnabledSince msg (outsOf hist)

theorem waitingOf_append (calls calls' : List Call) :
    waitingOf (calls ++ calls') = waitingOf calls ++ waitingOf calls' := filterMap_append

theorem mem_waitingOf {msg : ℕ} {calls : List Call} : msg ∈ waitingOf calls ↔ .waits msg ∈ calls := by
  rw [waitingOf, mem_filterMap]
  constructor
  · rintro ⟨c, hc, heq⟩
    cases c with
    | waits n =>
      obtain rfl := Option.some_inj.mp heq
      exact hc
    | _ => cases heq
  · exact fun h ↦ ⟨_, h, rfl⟩

theorem EnabledSince.append {msg : ℕ} {calls : List Call} (h : EnabledSince msg calls)
    (calls' : List Call) : EnabledSince msg (calls ++ calls') := by
  rw [EnabledSince] at h ⊢
  rw [dropWhile_append, if_neg (by simpa using ne_nil_of_mem h)]
  exact mem_append_left _ h

/-- A message that waits has waited when the engine comes up. -/
theorem EnabledSince.of_mem {msg : ℕ} {calls calls' : List Call} (h : .waits msg ∈ calls)
    (h' : .engineUp true ∈ calls') : EnabledSince msg (calls ++ calls') := by
  have hne : calls.dropWhile (· ≠ .waits msg) ≠ [] := by
    rw [ne_eq, dropWhile_eq_nil_iff]
    exact fun hall ↦ by simpa using hall _ h
  rw [EnabledSince, dropWhile_append, if_neg (by simpa using hne)]
  exact mem_append_right _ h'

namespace Accounted

variable {hist : List (Item Event Call)} {a a' : GnssAdapter} {outs : List Call} {e : Event}

theorem initial (isEngineCapabilitiesKnown : Bool) (state : EngineLockState) :
    Accounted [] (.initial isEngineCapabilitiesKnown state) where
  waiting := rfl
  nodup := nodup_nil
  lt_made := by simp [GnssAdapter.initial]
  sent_lt_made := by simp
  not_up := by simp
  fresh := by simp [GnssAdapter.initial]
  replayed := by simp

variable (h : Accounted hist a)
include h

/-- A step that neither puts a message to those that wait nor brings the engine up, and sends only
messages that are new. -/
theorem quiet (houts : ∀ c ∈ outs, (∃ n, c = .processed n) ∨ c = .sendMsg a.made ∧ a.made < a'.made)
    (hmade : a.made ≤ a'.made) (hpending : a'.mPendingMsgs = a.mPendingMsgs)
    (hreplayed : a'.replayed = a.replayed)
    (hknown : a'.mIsEngineCapabilitiesKnown = a.mIsEngineCapabilitiesKnown) :
    Accounted (hist ++ entry e outs) a' := by
  have hwaits : waitingOf outs = [] := by
    refine eq_nil_iff_forall_not_mem.mpr fun msg hmsg ↦ ?_
    rcases houts _ (mem_waitingOf.mp hmsg) with ⟨n, hn⟩ | ⟨hn, -⟩ <;> cases hn
  have hup : ∀ enabled, Call.engineUp enabled ∉ outs := by
    intro enabled hmem
    rcases houts _ hmem with ⟨n, hn⟩ | ⟨hn, -⟩ <;> cases hn
  -- the message that is sent is none of those that wait
  have hsend : ∀ msg ∈ a.mPendingMsgs, Call.sendMsg msg ∉ outs := by
    intro msg hmsg hmem
    have hlt := h.lt_made msg hmsg
    rcases houts _ hmem with ⟨n, hn⟩ | ⟨hn, -⟩
    · cases hn
    · cases hn
      exact absurd hlt (lt_irrefl _)
  refine ⟨?_, hpending ▸ h.nodup, ?_, ?_, ?_, ?_, ?_⟩
  · rw [outsOf_append_entry, waitingOf_append, hwaits, List.append_nil, h.waiting, hpending]
  · rw [hpending]
    exact fun msg hmsg ↦ (h.lt_made msg hmsg).trans_le hmade
  · intro msg hmsg
    rw [outsOf_append_entry, mem_append] at hmsg
    rcases hmsg with hmsg | hmsg
    · exact (h.sent_lt_made msg hmsg).trans_le hmade
    · rcases houts _ hmsg with ⟨n, hn⟩ | ⟨hn, hlt⟩
      · cases hn
      · cases hn
        exact hlt
  · rw [hknown, outsOf_append_entry]
    intro hunknown enabled hmem
    rcases mem_append.mp hmem with hmem | hmem
    · exact h.not_up hunknown enabled hmem
    · exact hup enabled hmem
  · rw [outsOf_append_entry, hpending, hreplayed]
    intro hnot
    obtain ⟨hnil, hfresh⟩ := h.fresh fun hmem ↦ hnot (mem_append_left _ hmem)
    refine ⟨hnil, fun msg hmsg hmem ↦ ?_⟩
    rcases mem_append.mp hmem with hmem | hmem
    · exact hfresh msg hmsg hmem
    · exact hsend msg hmsg hmem
  · rw [outsOf_append_entry, hpending, hreplayed]
    intro hmem
    obtain ⟨heq, hcount⟩ := h.replayed ((mem_append.mp hmem).resolve_right (hup true))
    refine ⟨heq, fun msg hmsg ↦ ⟨?_, (hcount msg hmsg).2.append _⟩⟩
    rw [count_append, (hcount msg hmsg).1, count_eq_zero.mpr (hsend msg hmsg)]

/-- A message that finds the capabilities unknown is put to those that wait. -/
theorem waits (hunknown : a.mIsEngineCapabilitiesKnown = false)
    (hmade : a'.made = a.made + 1) (hpending : a'.mPendingMsgs = a.mPendingMsgs ++ [a.made])
    (hreplayed : a'.replayed = a.replayed) : Accounted (hist ++ entry e [.waits a.made]) a' := by
  have hup : ∀ enabled, Call.engineUp enabled ∉ outsOf (hist ++ entry e [Call.waits a.made]) := by
    intro enabled hmem
    rw [outsOf_append_entry] at hmem
    rcases mem_append.mp hmem with hmem | hmem
    · exact h.not_up hunknown enabled hmem
    · cases mem_singleton.mp hmem
  refine ⟨?_, ?_, ?_, ?_, fun _ ↦ hup, fun _ ↦ ?_, fun hmem ↦ absurd hmem (hup true)⟩
  · rw [outsOf_append_entry, waitingOf_append, h.waiting, hpending]
    rfl
  · rw [hpending]
    refine nodup_append.mpr ⟨h.nodup, nodup_singleton _, fun msg hmsg n hn ↦ ?_⟩
    rw [mem_singleton.mp hn]
    exact (h.lt_made msg hmsg).ne
  · rw [hpending, hmade]
    intro msg hmsg
    rcases mem_append.mp hmsg with hmsg | hmsg
    · exact (h.lt_made msg hmsg).trans (Nat.lt_succ_self _)
    · rw [mem_singleton.mp hmsg]
      exact Nat.lt_succ_self _
  · rw [hmade]
    intro msg hmsg
    rw [outsOf_append_entry, mem_append] at hmsg
    rcases hmsg with hmsg | hmsg
    · exact (h.sent_lt_made msg hmsg).trans (Nat.lt_succ_self _)
    · cases mem_singleton.mp hmsg
  · obtain ⟨hnil, hfresh⟩ := h.fresh (h.not_up hunknown true)
    rw [hreplayed, hpending, outsOf_append_entry]
    refine ⟨hnil, fun msg hmsg hmem ↦ ?_⟩
    rcases mem_append.mp hmem with hmem | hmem
    · rcases mem_append.mp hmsg with hmsg | hmsg
      · exact hfresh msg hmsg hmem
      · rw [mem_singleton.mp hmsg] at hmem
        exact absurd (h.sent_lt_made _ hmem) (lt_irrefl _)
    · cases mem_singleton.mp hmem

/-- The engine comes up and is not enabled. -/
theorem engineUp_disabled (hmade : a'.made = a.made)
    (hpending : a'.mPendingMsgs = a.mPendingMsgs) (hreplayed : a'.replayed = a.replayed)
    (hknown : a'.mIsEngineCapabilitiesKnown = true) :
    Accounted (hist ++ entry e [.engineUp false]) a' := by
  have hup : .engineUp true ∈ outsOf (hist ++ entry e [Call.engineUp false]) ↔
      .engineUp true ∈ outsOf hist := by
    simp
  have hsend : ∀ msg, .sendMsg msg ∈ outsOf (hist ++ entry e [Call.engineUp false]) ↔
      .sendMsg msg ∈ outsOf hist := by
    simp
  refine ⟨?_, hpending ▸ h.nodup, ?_, ?_, ?_, ?_, ?_⟩
  · rw [outsOf_append_entry, waitingOf_append, h.waiting, hpending]
    exact List.append_nil _
  · rw [hpending, hmade]
    exact h.lt_made
  · rw [hmade]
    exact fun msg hmsg ↦ h.sent_lt_made msg ((hsend msg).mp hmsg)
  · rw [hknown]
    exact fun hfalse ↦ by cases hfalse
  · rw [hup, hpending, hreplayed]
    simp only [hsend]
    exact h.fresh
  · rw [hup, hpending, hreplayed]
    intro hmem
    obtain ⟨heq, hcount⟩ := h.replayed hmem
    refine ⟨heq, fun msg hmsg ↦ ?_⟩
    rw [outsOf_append_entry, count_append, (hcount msg hmsg).1]
    exact ⟨rfl, (hcount msg hmsg).2.append _⟩

/-- The engine comes up and is enabled: the messages that wait are replayed. -/
theorem engineUp_enabled (hg : ∀ msg ∈ a.mPendingMsgs, msg ∉ a.replayed) (hmade : a'.made = a.made)
    (hpending : a'.mPendingMsgs = a.mPendingMsgs)
    (hreplayed : a'.replayed = a.replayed ++ a.mPendingMsgs)
    (hknown : a'.mIsEngineCapabilitiesKnown = true) :
    Accounted (hist ++ entry e (.engineUp true :: a.mPendingMsgs.map .sendMsg)) a' := by
  have hwaits : waitingOf (.engineUp true :: a.mPendingMsgs.map .sendMsg) = [] := by
    simp [waitingOf, filterMap_map]
  have hmem : .engineUp true ∈
      outsOf (hist ++ entry e (Call.engineUp true :: a.mPendingMsgs.map .sendMsg)) := by
    simp
  refine ⟨?_, hpending ▸ h.nodup, ?_, ?_, ?_, fun hnot ↦ absurd hmem hnot, fun _ ↦ ?_⟩
  · rw [outsOf_append_entry, waitingOf_append, hwaits, List.append_nil, h.waiting, hpending]
  · rw [hpending, hmade]
    exact h.lt_made
  · rw [hmade]
    intro msg hmsg
    rw [outsOf_append_entry, mem_append] at hmsg
    rcases hmsg with hmsg | hmsg
    · exact h.sent_lt_made msg hmsg
    · exact h.lt_made msg (by simpa using hmsg)
  · rw [hknown]
    exact fun hfalse ↦ by cases hfalse
  · rw [hpending, hreplayed]
    by_cases hbefore : Call.engineUp true ∈ outsOf hist
    · -- what waits has been replayed before, so that nothing waits
      have hnil : a.mPendingMsgs = [] := by
        rw [(h.replayed hbefore).1] at hg
        exact eq_nil_iff_forall_not_mem.mpr fun msg hmsg ↦ hg msg hmsg hmsg
      rw [(h.replayed hbefore).1, hnil]
      simp
    · obtain ⟨hnil, hfresh⟩ := h.fresh hbefore
      refine ⟨by rw [hnil, nil_append], fun msg hmsg ↦ ?_⟩
      rw [outsOf_append_entry]
      refine ⟨?_, EnabledSince.of_mem ?_ mem_cons_self⟩
      · have hcount : (a.mPendingMsgs.map Call.sendMsg).count (.sendMsg msg) = 1 := by
          rw [count_map_of_injective _ _ fun _ _ heq ↦ Call.sendMsg.inj heq]
          exact count_eq_one_of_mem h.nodup hmsg
        rw [count_append, count_eq_zero.mpr (hfresh msg hmsg),
          count_cons_of_ne (by simp), hcount]
      · rw [← mem_waitingOf, h.waiting]
        exact hmsg

/-- A message is processed. -/
theorem proc {queue : List ℕ} {n : ℕ} {msg : LocMsg}
    (hg : msg = .handleEngineUpEvent → a.mEngineLockState = .enabled →
      ∀ msg ∈ a.mPendingMsgs, msg ∉ a.replayed) :
    Accounted (hist ++ entry e ({ a with queue := queue }.proc n msg).2)
      (({ a with queue := queue }.proc n msg).1.deleteMsg n) := by
  by_cases hwaits : msg.waits a.mIsEngineCapabilitiesKnown = true
  · have hunknown : a.mIsEngineCapabilitiesKnown = false := by
      cases hk : a.mIsEngineCapabilitiesKnown with
      | false => rfl
      | true => cases msg <;> simp [LocMsg.waits, hk] at hwaits
    rw [GnssAdapter.proc.eq_def, if_pos hwaits]
    exact h.waits hunknown rfl rfl rfl
  · rw [GnssAdapter.proc.eq_def, if_neg hwaits]
    cases msg with
    | handleEngineUpEvent =>
      dsimp only [GnssAdapter.engineUpProc]
      split
      · next henabled => exact h.engineUp_enabled (hg rfl henabled) rfl rfl rfl rfl
      · exact h.engineUp_disabled rfl rfl rfl rfl
    | _ => exact h.quiet (fun c hc ↦ Or.inl ⟨n, mem_singleton.mp hc⟩) le_rfl rfl rfl rfl

theorem step (hg : a.ReplaysFresh e) (hs : a.step e = some (a', outs)) :
    Accounted (hist ++ entry e outs) a' := by
  cases e with
  | command msg | handleEngineUpEvent =>
    obtain ⟨rfl, rfl⟩ := some_pair_inj hs
    refine h.quiet (fun c hc ↦ Or.inr ⟨mem_singleton.mp hc, ?_⟩) (Nat.le_succ _) rfl rfl rfl
    exact Nat.lt_succ_self _
  | setEngineLockState state =>
    obtain ⟨rfl, rfl⟩ := some_pair_inj hs
    exact h.quiet (by simp) le_rfl rfl rfl rfl
  | proc =>
    rw [GnssAdapter.step] at hs
    split at hs
    · cases hs
    · next n queue hqueue =>
      obtain ⟨msg, hmsg, heq⟩ := Option.map_eq_some_iff.mp hs
      obtain ⟨rfl, rfl⟩ := Prod.mk.inj heq
      refine h.proc fun hup ↦ hg n (by rw [hqueue]; rfl) ?_
      rw [hmsg, hup]

end Accounted

/-- In a run in which no engine up event that finds the engine enabled comes to messages replayed
before, every message that was put into `mPendingMsgs` has been handed to `sendMsg` exactly once if
an engine up event has found the engine enabled since, and not at all before. -/
theorem replayed_once_of_run {isEngineCapabilitiesKnown : Bool} {state : EngineLockState}
    {hist : List (Item Event Call)} {a : GnssAdapter}
    (h : Run GnssAdapter.step GnssAdapter.ReplaysFresh
      (GnssAdapter.initial isEngineCapabilitiesKnown state) hist a) {msg : ℕ}
    (hmsg : .waits msg ∈ outsOf hist) :
    (outsOf hist).count (.sendMsg msg) = if EnabledSince msg (outsOf hist) then 1 else 0 := by
  have ha : Accounted hist a := h.invariant (Accounted.initial _ _) fun ha hg hs ↦ ha.step hg hs
  rw [← mem_waitingOf, ha.waiting] at hmsg
  by_cases hup : Call.engineUp true ∈ outsOf hist
  · obtain ⟨hcount, hsince⟩ := (ha.replayed hup).2 msg hmsg
    rw [hcount, if_pos hsince]
  · have hnot : ¬EnabledSince msg (outsOf hist) :=
      fun hsince ↦ hup (dropWhile_sublist _ |>.mem hsince)
    rw [if_neg hnot, count_eq_zero]
    exact (ha.fresh hup).2 msg hmsg

/-- Two messages wait, the engine comes up disabled, and then enabled. -/
theorem replayed_once_of_run_two :
    ∃ hist a, Run GnssAdapter.step GnssAdapter.ReplaysFresh (GnssAdapter.initial false .disabled)
      hist a ∧ ∀ msg ∈ [2, 3], (outsOf hist).count (.sendMsg msg) = 1 := by
  obtain ⟨hist, a, hrun, ha⟩ := Run.exists_of_runEvents GnssAdapter.step GnssAdapter.ReplaysFresh
    (GnssAdapter.initial false .disabled)
    [.command (.startTracking 50), .command .gnssGetConfig, .proc, .proc, .handleEngineUpEvent,
      .proc, .setEngineLockState .enabled, .handleEngineUpEvent, .proc, .proc, .proc]
    (fun hist _ ↦ [2, 3].all fun msg ↦
      decide (.waits msg ∈ outsOf hist ∧ EnabledSince msg (outsOf hist))) (by decide +kernel)
  refine ⟨hist, a, hrun, fun msg hmsg ↦ ?_⟩
  obtain ⟨hwaits, hsince⟩ := of_decide_eq_true (all_eq_true.mp ha msg hmsg)
  rw [replayed_once_of_run hrun hwaits, if_pos hsince]

/-- After the modem has restarted the message is replayed again, and has been deleted before. -/
theorem not_replayed_once :
    ∃ hist a, Run GnssAdapter.step (fun _ _ ↦ True) (GnssAdapter.initial false .enabled) hist a ∧
      .waits 1 ∈ outsOf hist ∧ (outsOf hist).count (.sendMsg 1) = 2 ∧ a.queue = [1] ∧
      a.messages 1 = none := by
  exact Run.exists_of_decide
    [.command (.startTracking 50), .proc, .handleEngineUpEvent, .proc, .proc, .handleEngineUpEvent,
      .proc] (by decide +kernel)

end MataDevice.Gnss
