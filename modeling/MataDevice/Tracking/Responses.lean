import MataDevice.Tracking.System

/-!
# Answers to the tracking commands

A command is answered by the message itself, by a callback of a request it made, or by the callback
of a request that such a callback made in turn. What carries the argument is a debt: a message or a
callback *owes* the client one answer for its session, and processing it either pays the debt by one
call of `responseCb` or hands it on to the callback of one request. So at any time the answers given
and the debts left are together as many as the commands.

There are two places at which a debt is dropped: `MsgStartTracking` does not report the errors of
its two checks, and a distance based session whose stop fails in the middle of an update is not
answered. The law holds for the runs that do not come to one of them.
-/

namespace MataDevice.Tracking

open List

/-! ## Debts -/

/-- The session for which a callback owes an answer. -/
def Callback.owes : Callback → Option LocationSessionKey
  | .startedDistance key | .startedTime key | .updatedTime key _ | .stoppedTime key
  | .switchToTime key _ | .restartDistance key _ | .restartedDistance key _
  | .stoppedDistance key => some key
  | .ignore => none

def LocMsg.owes : LocMsg → Option LocationSessionKey
  | .startTracking key _ | .updateTracking key _ | .stopTracking key => some key
  | .locApiResponse callback _ => callback.owes

/-- The session that a call answers. -/
def Call.answers : Call → Option LocationSessionKey
  | .responseCb client _ sessionId => some ⟨client, sessionId⟩
  | _ => none

/-- The session that a call answers, or will answer through its callback. -/
def Call.settles (c : Call) : Option LocationSessionKey :=
  c.answers.or (c.response.bind Callback.owes)

theorem Call.answers_or_response (c : Call) : c.answers = none ∨ c.response = none := by
  cases c <;> first | exact Or.inl rfl | exact Or.inr rfl

/-- A message that is not dropped without an answer. -/
def LocMsg.Answered (a : GnssAdapter) : LocMsg → Prop
  | .startTracking key options => a.hasCallbacksToStartTracking key = true ∧ options.size ≠ 0
  | .locApiResponse (.restartDistance _ _) err => err = .success
  | _ => True

instance (a : GnssAdapter) : DecidablePred (LocMsg.Answered a)
  | .startTracking _ _ => inferInstanceAs (Decidable (_ ∧ _))
  | .locApiResponse callback _ =>
    match callback with
    | .restartDistance _ _ => inferInstanceAs (Decidable (_ = _))
    | .startedDistance _ | .startedTime _ | .updatedTime _ _ | .stoppedTime _
    | .switchToTime _ _ | .restartedDistance _ _ | .stoppedDistance _ | .ignore => .isTrue trivial
  | .updateTracking _ _ | .stopTracking _ => .isTrue trivial

namespace GnssAdapter

variable {a : GnssAdapter} {key : LocationSessionKey} {options : TrackingOptions}

section

variable (h : a.Registered key.client)
include h

theorem settles_reportResponse (err : LocationError) :
    (a.reportResponse key err).filterMap Call.settles = [key] := by
  rw [Registered] at h
  rw [reportResponse, if_pos h]
  rfl

theorem settles_runTimeBasedTracking {callback : Callback} (hc : callback.owes = some key) :
    (a.runTimeBasedTracking key options callback).2.filterMap Call.settles = [key] := by
  have hconfig := a.config_checkAndSetSPEToRunforNHz options
  rw [runTimeBasedTracking]
  split
  next heq =>
    rw [heq] at hconfig
    split
    · simp [Call.settles, Call.answers, Call.response, hc]
    · exact settles_reportResponse (h.of_config hconfig) _

/-- Without an answer of the engine to wait for nothing is settled yet. -/
theorem settles_startTimeBasedTrackingMultiplex :
    (a.startTimeBasedTrackingMultiplex key options).2.2.filterMap Call.settles =
      if (a.startTimeBasedTrackingMultiplex key options).1 then [] else [key] := by
  rw [startTimeBasedTrackingMultiplex]
  repeat' split
  all_goals first | rfl | contradiction | exact settles_runTimeBasedTracking h rfl

theorem settles_updateTrackingMultiplex :
    (a.updateTrackingMultiplex key options).2.2.filterMap Call.settles =
      if (a.updateTrackingMultiplex key options).1 then [] else [key] := by
  rw [updateTrackingMultiplex]
  repeat' split
  all_goals first | rfl | contradiction | exact settles_runTimeBasedTracking h rfl

theorem settles_stopTimeBasedTrackingMultiplex :
    (a.stopTimeBasedTrackingMultiplex key).2.2.filterMap Call.settles =
      if (a.stopTimeBasedTrackingMultiplex key).1 then [] else [key] := by
  rw [stopTimeBasedTrackingMultiplex]
  repeat' split
  all_goals first | rfl | contradiction | exact settles_runTimeBasedTracking h rfl

end

theorem settles_thenReport {multiplexed : Bool × GnssAdapter × List Call}
    {edit : GnssAdapter → GnssAdapter} (h : (edit multiplexed.2.1).Registered key.client)
    (hm : multiplexed.2.2.filterMap Call.settles = if multiplexed.1 then [] else [key]) :
    (thenReport key multiplexed edit).2.filterMap Call.settles = [key] := by
  obtain ⟨noWait, a, calls⟩ := multiplexed
  rw [thenReport, filterMap_append]
  cases noWait with
  | false =>
    rw [hm]
    rfl
  | true =>
    rw [hm, if_pos rfl, if_pos rfl, nil_append]
    exact settles_reportResponse h _

theorem settles_startTimeBasedSession (h : a.Registered key.client) :
    (a.startTimeBasedSession key options).2.filterMap Call.settles = [key] :=
  settles_thenReport (h.of_config (by simp)) (settles_startTimeBasedTrackingMultiplex h)

theorem settles_stopTimeBasedSession (h : a.Registered key.client) :
    (thenReport key (a.stopTimeBasedTrackingMultiplex key)
      (·.eraseTrackingSession key)).2.filterMap Call.settles = [key] :=
  settles_thenReport (h.of_config (by simp)) (settles_stopTimeBasedTrackingMultiplex h)

theorem settles_startTrackingProc (hknown : a.mIsEngineCapabilitiesKnown = true)
    (h : a.Registered key.client) (hm : LocMsg.Answered a (.startTracking key options)) :
    (a.startTrackingProc key options).2.filterMap Call.settles = [key] := by
  obtain ⟨hcallbacks, hsize⟩ := hm
  rw [startTrackingProc, if_neg (by simp [hknown]), if_neg (by simp [hcallbacks]), if_neg hsize]
  dsimp only
  split
  · rfl
  · exact settles_startTimeBasedSession h

theorem settles_updateTrackingProc (hknown : a.mIsEngineCapabilitiesKnown = true)
    (h : a.Registered key.client) :
    (a.updateTrackingProc key options).2.filterMap Call.settles = [key] := by
  rw [updateTrackingProc, if_neg (by simp [hknown])]
  dsimp only
  split
  · exact settles_reportResponse h _
  split
  · exact settles_reportResponse h _
  split
  · -- the request that follows is nobody's debt
    rw [switchToDistance, filterMap_append, settles_stopTimeBasedSession h]
    rfl
  split
  · rfl
  split
  · exact settles_thenReport (h.of_config (by simp)) (settles_updateTrackingMultiplex h)
  · rfl

theorem settles_stopTrackingProc (h : a.Registered key.client) :
    (a.stopTrackingProc key).2.filterMap Call.settles = [key] := by
  rw [stopTrackingProc]
  split
  · exact settles_stopTimeBasedSession h
  split
  · rfl
  · exact settles_reportResponse h _

/-- Processing a message pays its debt or hands it on, exactly once. -/
theorem settles_proc {msg : LocMsg} (hknown : a.mIsEngineCapabilitiesKnown = true)
    (h : ∀ key ∈ msg.owes, a.Registered key.client) (hm : msg.Answered a) :
    (a.proc msg).2.filterMap Call.settles = msg.owes.toList := by
  cases msg with
  | startTracking key options => exact settles_startTrackingProc hknown (h key rfl) hm
  | updateTracking key options => exact settles_updateTrackingProc hknown (h key rfl)
  | stopTracking key => exact settles_stopTrackingProc (h key rfl)
  | locApiResponse callback err =>
    cases callback with
    | ignore => rfl
    | switchToTime key options => exact settles_startTimeBasedSession (h key rfl)
    | restartDistance key options =>
      have herr : err = .success := hm
      rw [proc, locApiResponseProc, if_pos herr]
      rfl
    | startedDistance key | startedTime key | updatedTime key _ | stoppedTime key
    | restartedDistance key _ | stoppedDistance key => exact settles_reportResponse (h key rfl) _

/-- A restart is done for no command. -/
theorem settles_restartSessions : a.restartSessions.2.filterMap Call.settles = [] := by
  rw [restartSessions, filterMap_append, append_eq_nil_iff]
  constructor
  · rw [checkAndRestartTimeBasedSession]
    repeat' split
    all_goals rfl
  · refine filterMap_eq_nil_iff.mpr fun c hc ↦ ?_
    obtain ⟨e, -, rfl⟩ := mem_map.mp hc
    rfl

end GnssAdapter

/-! ## Answers and debts of a run -/

/-- What `f` reads off the items of a list, with their owners. -/
def collect {α β : Type} (f : α → Option β) (l : List (Owned α)) : List (Owned β) :=
  l.filterMap fun x ↦ (f x.2).map (x.1, ·)

/-- What `responseCb` was called with for a command. -/
def responsesTo (n : ℕ) (hist : List (Item Event (Owned Call))) :
    List (LocationAPI × LocationError × ℕ) :=
  (callsOf hist).filterMap fun
    | (owner, .responseCb client err sessionId) =>
      if owner = some n then some (client, err, sessionId) else none
    | _ => none

namespace TrackingSystem

/-- The debts of the queue and of the requests that wait. -/
def outstanding (s : TrackingSystem) : List (Owned LocationSessionKey) :=
  collect LocMsg.owes s.queue ++ collect Callback.owes s.awaiting

/-- The commands with their numbers. -/
def numbered (s : TrackingSystem) : List (Owned LocationSessionKey) :=
  s.commands.mapIdx fun n key ↦ (some n, key)

/-- The next message to be processed is not dropped without an answer. -/
def NextAnswered (s : TrackingSystem) : Event → Prop
  | .proc => ∀ x ∈ s.queue.head?, x.2.Answered s.adapter
  | _ => True

instance (s : TrackingSystem) : DecidablePred s.NextAnswered
  | .proc => inferInstanceAs (Decidable (∀ x ∈ s.queue.head?, _))
  | .startTrackingCommand .. | .updateTrackingOptionsCommand .. | .stopTrackingCommand ..
  | .returnToSender .. | .setEngineLockState _ | .setNHzNeeded _ | .restartSessions =>
    .isTrue trivial

end TrackingSystem

section Collect

variable {α β γ : Type}

theorem collect_append (f : α → Option β) (l l' : List (Owned α)) :
    collect f (l ++ l') = collect f l ++ collect f l' :=
  filterMap_append

theorem collect_cons (f : α → Option β) (x : Owned α) (l : List (Owned α)) :
    collect f (x :: l) = ((f x.2).map (x.1, ·)).toList ++ collect f l := by
  rw [collect, filterMap_cons]
  cases f x.2 <;> rfl

theorem collect_map (f : α → Option β) (owner : Option ℕ) (l : List α) :
    collect f (l.map (owner, ·)) = (l.filterMap f).map (owner, ·) := by
  rw [collect, filterMap_map, map_filterMap]
  rfl

/-- Two readings that never both apply read off together what one after the other does. -/
theorem perm_filterMap_or {f g : α → Option β} (h : ∀ x, f x = none ∨ g x = none) (l : List α) :
    (l.filterMap f ++ l.filterMap g).Perm (l.filterMap fun x ↦ (f x).or (g x)) := by
  induction l with
  | nil => rfl
  | cons x l ih =>
    simp only [filterMap_cons]
    rcases hx : f x with - | y
    · rw [Option.none_or]
      rcases g x with - | y
      · exact ih
      · exact perm_middle.trans (ih.cons y)
    · obtain hg : g x = none := (h x).resolve_left (by simp [hx])
      rw [hg]
      exact ih.cons y

/-- Calls that are answers or requests settle what the answers are for and what the callbacks of the
requests owe. -/
theorem perm_collect_settles {κ : Type} {answers : κ → Option β} {response : κ → Option α}
    (owes : α → Option β) (h : ∀ c, answers c = none ∨ response c = none) (calls : List κ)
    (owner : Option ℕ) :
    (collect answers (calls.map (owner, ·)) ++
      collect owes (calls.filterMap fun c ↦ (response c).map (owner, ·))).Perm
      ((calls.filterMap fun c ↦ (answers c).or ((response c).bind owes)).map (owner, ·)) := by
  have hrequests : collect owes (calls.filterMap fun c ↦ (response c).map (owner, ·)) =
      (calls.filterMap fun c ↦ (response c).bind owes).map (owner, ·) := by
    rw [collect, filterMap_filterMap, map_filterMap]
    refine filterMap_congr fun c _ ↦ ?_
    cases response c <;> rfl
  rw [collect_map, hrequests, ← map_append]
  refine (perm_filterMap_or (fun c ↦ (h c).imp_right fun hc ↦ ?_) calls).map _
  rw [hc, Option.bind_none]

/-- What is paid and what is handed on take the place of a debt. -/
theorem perm_of_paid {paid paid' handed debt queue waiting all : List β}
    (hdebt : (paid' ++ handed).Perm debt) (h : (paid ++ (debt ++ queue ++ waiting)).Perm all) :
    (paid ++ paid' ++ (queue ++ (waiting ++ handed))).Perm all := by
  classical
  rw [perm_iff_count] at h hdebt ⊢
  intro x
  have hx := h x
  have hx' := hdebt x
  simp only [count_append] at hx hx' ⊢
  omega

/-- A new debt comes with something new to be paid. -/
theorem perm_of_owed {paid debt queue waiting all : List β}
    (h : (paid ++ (queue ++ waiting)).Perm all) :
    (paid ++ (queue ++ debt ++ waiting)).Perm (all ++ debt) := by
  classical
  rw [perm_iff_count] at h ⊢
  intro x
  have hx := h x
  simp only [count_append] at hx ⊢
  omega

/-- A debt taken from those that wait goes to the end of the queue. -/
theorem perm_collect_of_getElem? (f : α → Option β) {l : List (Owned α)} {i : ℕ}
    {owner : Option ℕ} {x : α} (h : l[i]? = some (owner, x)) :
    (collect f [(owner, x)] ++ collect f (l.eraseIdx i)).Perm (collect f l) := by
  obtain ⟨hlt, hget⟩ := List.getElem?_eq_some_iff.mp h
  have hperm : ([(owner, x)] ++ l.eraseIdx i).Perm l := by
    rw [← hget]
    exact getElem_cons_eraseIdx_perm hlt
  rw [← collect_append]
  exact hperm.filterMap _

end Collect

/-! ## The balance -/

/-- The answers given and the debts left are the commands. -/
structure Balanced (hist : List (Item Event (Owned Call))) (s : TrackingSystem) : Prop where
  known : s.adapter.mIsEngineCapabilitiesKnown = true
  registered : ∀ key ∈ s.commands, s.adapter.Registered key.client
  perm : (collect Call.answers (callsOf hist) ++ s.outstanding).Perm s.numbered

namespace Balanced

variable {hist : List (Item Event (Owned Call))} {s : TrackingSystem}

theorem initial {adapter : GnssAdapter} (h : adapter.mIsEngineCapabilitiesKnown = true) :
    Balanced [] (TrackingSystem.initial adapter) where
  known := h
  registered := by simp [TrackingSystem.initial]
  perm := .nil

theorem mem_commands (h : Balanced hist s) {x : Owned LocationSessionKey}
    (hx : x ∈ s.outstanding) : x.2 ∈ s.commands := by
  have hmem := h.perm.subset (mem_append_right _ hx)
  obtain ⟨n, hn, rfl⟩ := mem_mapIdx.mp hmem
  exact getElem_mem hn

variable {s' : TrackingSystem} {outs : List (Owned Call)}

/-- A change of the state that is no processing of a message keeps the balance. -/
theorem of_eq (h : Balanced hist s) (e : Event)
    (hknown : s'.adapter.mIsEngineCapabilitiesKnown = s.adapter.mIsEngineCapabilitiesKnown)
    (hdata : s'.adapter.mClientData = s.adapter.mClientData) (hcommands : s'.commands = s.commands)
    (hperm : s'.outstanding.Perm s.outstanding) : Balanced (hist ++ entry e []) s' where
  known := hknown.trans h.known
  registered := by
    intro key hkey
    rw [GnssAdapter.Registered, hdata]
    exact h.registered key (hcommands ▸ hkey)
  perm := by
    rw [callsOf_append_entry, List.append_nil, TrackingSystem.numbered, hcommands]
    exact (hperm.append_left _).trans h.perm

/-- A new command is a new debt. -/
theorem give (h : Balanced hist s) (e : Event)
    {key : LocationSessionKey} {msg : LocMsg} (hm : msg.owes = some key)
    (hs : s.give key msg = some (s', outs)) : Balanced (hist ++ entry e outs) s' := by
  rw [TrackingSystem.give] at hs
  split at hs
  · next hreg =>
    obtain ⟨rfl, rfl⟩ := some_pair_inj hs
    refine ⟨h.known, fun key' hkey' ↦ ?_, ?_⟩
    · rcases mem_append.mp hkey' with hkey' | hkey'
      · exact h.registered key' hkey'
      · rw [mem_singleton.mp hkey']
        exact hreg
    · have hqueue : collect LocMsg.owes [(some s.commands.length, msg)] =
          [(some s.commands.length, key)] := by
        simp [collect, hm]
      simp only [callsOf_append_entry, List.append_nil, TrackingSystem.outstanding,
        TrackingSystem.numbered, collect_append, hqueue, mapIdx_concat]
      exact perm_of_owed h.perm
  · cases hs

/-- What is done for a message takes the place of its debt. -/
theorem perform (h : Balanced hist s) {queue : List (Owned LocMsg)} {owner : Option ℕ}
    {result : GnssAdapter × List Call} (e : Event) (debt : Option LocationSessionKey)
    (hqueue : collect LocMsg.owes s.queue =
      (debt.map (owner, ·)).toList ++ collect LocMsg.owes queue)
    (hconfig : result.1.config = s.adapter.config)
    (hdebt : result.2.filterMap Call.settles = debt.toList) :
    Balanced (hist ++ entry e ({ s with queue := queue }.perform owner result).2)
      ({ s with queue := queue }.perform owner result).1 where
  known := (congrArg (fun c ↦ c.2.1) hconfig).trans h.known
  registered := fun key hkey ↦ (h.registered key hkey).of_config hconfig
  perm := by
    have hsettles := perm_collect_settles Callback.owes Call.answers_or_response result.2 owner
    have hmap : (result.2.filterMap Call.settles).map (owner, ·) =
        (debt.map (owner, ·)).toList := by
      rw [hdebt]
      cases debt <;> rfl
    have hperm := h.perm
    simp only [callsOf_append_entry, TrackingSystem.perform, TrackingSystem.outstanding,
      TrackingSystem.numbered, collect_append, hqueue] at hperm ⊢
    exact perm_of_paid (hsettles.trans (.of_eq hmap)) hperm

theorem step (h : Balanced hist s) {e : Event}
    (hg : s.NextAnswered e) (hs : s.step e = some (s', outs)) :
    Balanced (hist ++ entry e outs) s' := by
  cases e with
  | startTrackingCommand client options =>
    have h' : Balanced hist
        { s with mSessionIdCounter := generateSessionId s.mSessionIdCounter } :=
      ⟨h.known, h.registered, h.perm⟩
    exact h'.give _ rfl hs
  | updateTrackingOptionsCommand client id options => exact h.give _ rfl hs
  | stopTrackingCommand client id => exact h.give _ rfl hs
  | proc =>
    rw [TrackingSystem.step] at hs
    split at hs
    · cases hs
    · next owner msg queue hqueue =>
      obtain ⟨rfl, rfl⟩ := some_pair_inj hs
      have hm : msg.Answered s.adapter := hg (owner, msg) (by rw [hqueue]; rfl)
      have hcollect : collect LocMsg.owes s.queue =
          (msg.owes.map (owner, ·)).toList ++ collect LocMsg.owes queue := by
        rw [hqueue, collect_cons]
      refine h.perform _ _ hcollect (s.adapter.config_proc msg)
        (GnssAdapter.settles_proc h.known (fun key hkey ↦ ?_) hm)
      -- what a message owes it owes to a command, and only registered clients give commands
      refine h.registered key (h.mem_commands (x := (owner, key)) (mem_append_left _ ?_))
      rw [hcollect, Option.mem_def.mp hkey]
      exact mem_append_left _ (mem_singleton.mpr rfl)
  | returnToSender i err =>
    rw [TrackingSystem.step] at hs
    split at hs
    · cases hs
    · next owner callback hi =>
      obtain ⟨rfl, rfl⟩ := some_pair_inj hs
      -- the answer takes the place of the callback it is for
      refine h.of_eq _ rfl rfl rfl ?_
      rw [TrackingSystem.outstanding, collect_append, append_assoc]
      exact (perm_collect_of_getElem? Callback.owes hi).append_left _
  | setEngineLockState state | setNHzNeeded needed =>
    obtain ⟨rfl, rfl⟩ := some_pair_inj hs
    exact h.of_eq _ rfl rfl rfl (.refl _)
  | restartSessions =>
    obtain ⟨rfl, rfl⟩ := some_pair_inj hs
    exact h.perform _ none rfl s.adapter.config_restartSessions
      GnssAdapter.settles_restartSessions

end Balanced

/-! ## The law -/

/-- The answers to one command, by their sessions. -/
theorem map_responsesTo (n : ℕ) (hist : List (Item Event (Owned Call))) :
    (responsesTo n hist).map (fun r ↦ (some n, ⟨r.1, r.2.2⟩)) =
      (collect Call.answers (callsOf hist)).filter fun x ↦ x.1 = some n := by
  rw [responsesTo, collect, map_filterMap, filter_filterMap]
  refine filterMap_congr fun x _ ↦ ?_
  obtain ⟨owner, c⟩ := x
  cases c with
  | responseCb client err sessionId =>
    by_cases h : owner = some n <;> simp [h, Call.answers, Option.filter]
  | _ => rfl

/-- A number belongs to one command. -/
theorem filter_mapIdx (n : ℕ) (commands : List LocationSessionKey) :
    ((commands.mapIdx fun n key ↦ ((some n, key) : Owned LocationSessionKey)).filter
      fun x ↦ x.1 = some n) = (commands[n]?.map (some n, ·)).toList := by
  induction commands using List.reverseRecOn with
  | nil => rfl
  | append_singleton commands key ih =>
    rw [mapIdx_concat, filter_append, ih]
    rcases lt_trichotomy n commands.length with h | rfl | h
    · rw [getElem?_append_left h]
      simp [h.ne']
    · simp
    · rw [getElem?_eq_none h.le, getElem?_eq_none (by simpa using h)]
      simp [h.ne]

variable {hist : List (Item Event (Owned Call))} {s : TrackingSystem} {key : LocationSessionKey}

/-- Once nothing is left to be processed, every command has been answered once. -/
theorem Balanced.responsesTo_eq (h : Balanced hist s) (hq : s.Quiet) {n : ℕ}
    (hn : s.commands[n]? = some key) :
    ∃ err, responsesTo n hist = [(key.client, err, key.id)] := by
  have hperm := h.perm
  have hout : s.outstanding = [] := by
    rw [TrackingSystem.outstanding, hq.1, hq.2]
    rfl
  rw [hout, List.append_nil] at hperm
  have hfilter := hperm.filter fun x ↦ decide (x.1 = some n)
  rw [← map_responsesTo, TrackingSystem.numbered, filter_mapIdx, hn] at hfilter
  obtain ⟨⟨client, err, id⟩, hr, hkey⟩ :=
    map_eq_singleton_iff.mp (perm_singleton.mp hfilter)
  obtain ⟨-, hkey⟩ := Prod.mk.inj hkey
  exact ⟨err, by rw [hr, ← hkey]⟩

/-- Invalid options of an update are reported, unless its session is not known. -/
theorem Balanced.proc_of_size_eq_zero
    (h : Balanced hist s) {owner : Option ℕ} {options : TrackingOptions}
    (hq : s.queue.head? = some (owner, .updateTracking key options)) (hsize : options.size = 0) :
    ∃ s', s.step .proc = some (s', [(owner, .responseCb key.client
      (if s.adapter.isTimeBasedTrackingSession key ∨ s.adapter.isDistanceBasedTrackingSession key
        then .invalidParameter else .idUnknown) key.id)]) := by
  obtain ⟨queue, hqueue⟩ := head?_eq_some_iff.mp hq
  have hreg : s.adapter.Registered key.client := by
    refine h.registered key (h.mem_commands (x := (owner, key)) (mem_append_left _ ?_))
    rw [hqueue]
    exact mem_cons_self
  rw [GnssAdapter.Registered] at hreg
  have hproc : s.adapter.updateTrackingProc key options = (s.adapter, s.adapter.reportResponse key
      (if s.adapter.isTimeBasedTrackingSession key ∨
        s.adapter.isDistanceBasedTrackingSession key then .invalidParameter else .idUnknown)) := by
    rw [GnssAdapter.updateTrackingProc, if_neg (by simp [h.known])]
    by_cases ht : s.adapter.isTimeBasedTrackingSession key = true <;>
      by_cases hd : s.adapter.isDistanceBasedTrackingSession key = true <;>
      simp [ht, hd, hsize]
  refine ⟨{ s with queue := queue, awaiting := s.awaiting ++ [] }, ?_⟩
  simp only [TrackingSystem.step, hqueue, GnssAdapter.proc, hproc, TrackingSystem.perform,
    GnssAdapter.reportResponse, if_pos hreg]
  rfl

/-- In a run that drops no message without an answer, every command has been answered exactly once,
with its session, as soon as all messages are processed and all requests answered; and the invalid
options of an update are answered with the error documented for them. -/
theorem answered_once_of_run {adapter : GnssAdapter}
    (hknown : adapter.mIsEngineCapabilitiesKnown = true)
    {hist : List (Item Event (Owned Call))} {s : TrackingSystem}
    (h : Run TrackingSystem.step TrackingSystem.NextAnswered (TrackingSystem.initial adapter)
      hist s) :
    (s.Quiet → ∀ n key, s.commands[n]? = some key →
      ∃ err, responsesTo n hist = [(key.client, err, key.id)]) ∧
    (∀ owner key options, s.queue.head? = some (owner, .updateTracking key options) →
      options.size = 0 → ∃ s', s.step .proc = some (s', [(owner, .responseCb key.client
        (if s.adapter.isTimeBasedTrackingSession key ∨ s.adapter.isDistanceBasedTrackingSession key
          then .invalidParameter else .idUnknown) key.id)])) := by
  have hb : Balanced hist s := h.invariant (Balanced.initial hknown) fun hb hg hs ↦ hb.step hg hs
  exact ⟨fun hq n key hn ↦ hb.responsesTo_eq hq hn,
    fun owner key options hq hsize ↦ hb.proc_of_size_eq_zero hq hsize⟩

/-! ## Concrete runs -/

/-- A distance based session that becomes time based while the engine refuses to start, and an
update with invalid options. -/
theorem answered_once_of_run_switched :
    ∃ hist s, Run TrackingSystem.step TrackingSystem.NextAnswered
      (TrackingSystem.initial sampleAdapter) hist s ∧ s.commands.length = 3 ∧
      ∀ n key, s.commands[n]? = some key →
        ∃ err, responsesTo n hist = [(key.client, err, key.id)] := by
  obtain ⟨hist, s, hrun, hlength, hquiet⟩ := Run.exists_of_runEvents TrackingSystem.step
    TrackingSystem.NextAnswered (TrackingSystem.initial sampleAdapter)
    [.startTrackingCommand 1 (sampleOptions 1000 50 .m2),
      .updateTrackingOptionsCommand 1 2 (sampleOptions 1000 0 .m2),
      .updateTrackingOptionsCommand 1 2 .zero, .proc, .returnToSender 0 .success, .proc, .proc,
      .proc, .returnToSender 0 .timeout, .proc, .returnToSender 0 .generalFailure, .proc]
    (fun _ s ↦ s.commands.length = 3 ∧ s.Quiet) (by decide +kernel)
  exact ⟨hist, s, hrun, hlength, (answered_once_of_run rfl hrun).1 hquiet⟩

/-- A start without the callbacks for it is never answered; nor is the update of a distance based
session when the stop that it begins with fails. -/
theorem not_answered_once :
    (∃ hist s, Run TrackingSystem.step (fun _ _ ↦ True) (TrackingSystem.initial sampleAdapter)
      hist s ∧ s.Quiet ∧ s.commands = [⟨2, 2⟩] ∧ responsesTo 0 hist = []) ∧
    ∃ hist s, Run TrackingSystem.step (fun _ _ ↦ True) (TrackingSystem.initial sampleAdapter)
      hist s ∧ s.Quiet ∧ s.commands = [⟨1, 2⟩, ⟨1, 2⟩] ∧ responsesTo 1 hist = [] := by
  constructor
  · exact Run.exists_of_decide [.startTrackingCommand 2 (sampleOptions 1000 0 .m2), .proc]
      (by decide +kernel)
  · exact Run.exists_of_decide
      [.startTrackingCommand 1 (sampleOptions 1000 50 .m2), .proc, .returnToSender 0 .success,
        .proc, .updateTrackingOptionsCommand 1 2 (sampleOptions 1000 100 .m2), .proc,
        .returnToSender 0 .generalFailure, .proc] (by decide +kernel)

end MataDevice.Tracking
