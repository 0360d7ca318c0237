import MataDevice.Tracking.Phases

/-!
# Tracking sessions from their start to their stop

The tracking system with a log of the commands and their kinds. In a run in which no callback brings
back a session, puts it into both maps or takes it away, a session that was stopped with success is
in neither map from then on, and once all requests are answered a session that was started with
success and not stopped is in exactly one of them.
-/

namespace MataDevice.Tracking

open List

/-- The command that an event gives. -/
def Event.command (s : TrackingSystem) : Event → Option (CommandKind × LocationSessionKey)
  | .startTrackingCommand client _ => some (.start, ⟨client, generateSessionId s.mSessionIdCounter⟩)
  | .updateTrackingOptionsCommand client id _ => some (.update, ⟨client, id⟩)
  | .stopTrackingCommand client id => some (.stop, ⟨client, id⟩)
  | .proc | .returnToSender .. | .setEngineLockState _ | .setNHzNeeded _ | .restartSessions => none

/-- The requests under way for a session: the engine has them or their answers are in the queue. -/
def TrackingSystem.flights (s : TrackingSystem) (key : LocationSessionKey) :
    List (Owned Callback) :=
  (collect LocMsg.callback s.queue ++ s.awaiting).filter fun f ↦ f.2.owes = some key

structure SessionSystem where
  sys : TrackingSystem
  /-- The commands given so far; the number of a command is its place. -/
  log : List (CommandKind × LocationSessionKey)

namespace SessionSystem

variable (s : SessionSystem)

def initial (adapter : GnssAdapter) : SessionSystem := ⟨TrackingSystem.initial adapter, []⟩

def step (e : Event) : Option (SessionSystem × List (Owned Call)) :=
  (s.sys.step e).map fun result ↦
    ({ sys := result.1, log := s.log ++ (e.command s.sys).toList }, result.2)

/-- Which command was given as the `n`th one. -/
def IsCommand (n : ℕ) (kind : CommandKind) (key : LocationSessionKey) : Prop :=
  s.log[n]? = some (kind, key)

instance (n : ℕ) (kind : CommandKind) (key : LocationSessionKey) :
    Decidable (s.IsCommand n kind key) := inferInstanceAs (Decidable (_ = _))

/-- The next message has some property, together with its command. -/
def Ahead (q : LocMsg → CommandKind → LocationSessionKey → Prop) : Prop :=
  ∀ x ∈ s.sys.queue.head?, ∀ key ∈ x.2.owes, ∀ n ∈ x.1, ∀ c ∈ s.log[n]?, q x.2 c.1 key

instance (q : LocMsg → CommandKind → LocationSessionKey → Prop)
    [∀ msg kind key, Decidable (q msg kind key)] : Decidable (s.Ahead q) :=
  inferInstanceAs (Decidable (∀ x ∈ s.sys.queue.head?, ∀ key ∈ x.2.owes, ∀ n ∈ x.1, ∀ c ∈ s.log[n]?, _))

/-- A session id is used once, and callbacks keep sessions where they are. -/
def NextKeeps : Event → Prop
  | .startTrackingCommand client _ =>
    (.start, ⟨client, generateSessionId s.sys.mSessionIdCounter⟩) ∉ s.log
  | .proc => s.Ahead fun msg kind key ↦ msg.Keeps s.sys.adapter.mEngineLockState kind
      (s.sys.adapter.held key) (switchesOf (s.sys.flights key))
  | _ => True

instance : DecidablePred s.NextKeeps
  | .startTrackingCommand client _ => inferInstanceAs (Decidable (_ ∉ _))
  | .proc => inferInstanceAs (Decidable (s.Ahead fun msg kind key ↦
      msg.Keeps s.sys.adapter.mEngineLockState kind (s.sys.adapter.held key)
        (switchesOf (s.sys.flights key))))
  | .updateTrackingOptionsCommand .. | .stopTrackingCommand .. | .returnToSender ..
  | .setEngineLockState _ | .setNHzNeeded _ | .restartSessions => .isTrue trivial

/-- A stop that fails leaves its session where it is. -/
def NextKeepsUnstopped : Event → Prop
  | .proc => s.Ahead fun msg kind _ ↦ msg.KeepsUnstopped s.sys.adapter.mEngineLockState kind
  | _ => True

instance : DecidablePred s.NextKeepsUnstopped
  | .proc => inferInstanceAs (Decidable (s.Ahead fun msg kind _ ↦
      msg.KeepsUnstopped s.sys.adapter.mEngineLockState kind))
  | .startTrackingCommand .. | .updateTrackingOptionsCommand .. | .stopTrackingCommand ..
  | .returnToSender .. | .setEngineLockState _ | .setNHzNeeded _ | .restartSessions =>
    .isTrue trivial

end SessionSystem

/-- A command has been processed: it is one of the first `m` in the log. -/
def Given (log : List (CommandKind × LocationSessionKey)) (m : ℕ) (key : LocationSessionKey)
    (kind : CommandKind) (n : ℕ) : Prop :=
  n < m ∧ log[n]? = some (kind, key)

/-- A success has been reported for a command. -/
def Succeeded (hist : List (Item Event (Owned Call))) (key : LocationSessionKey) (n : ℕ) : Prop :=
  (key.client, .success, key.id) ∈ responsesTo n hist

instance (hist : List (Item Event (Owned Call))) (key : LocationSessionKey) (n : ℕ) :
    Decidable (Succeeded hist key n) := inferInstanceAs (Decidable (_ ∈ _))

variable {hist : List (Item Event (Owned Call))}

theorem mem_responsesTo {n : ℕ} {client : LocationAPI} {err : LocationError} {id : ℕ} :
    (client, err, id) ∈ responsesTo n hist ↔
      (some n, .responseCb client err id) ∈ callsOf hist := by
  rw [responsesTo, mem_filterMap]
  constructor
  · rintro ⟨⟨owner, c⟩, hmem, hc⟩
    cases c with
    | responseCb client' err' id' =>
      by_cases howner : owner = some n
      · simp only [howner, if_true, Option.some_inj, Prod.mk.injEq] at hc
        obtain ⟨rfl, rfl, rfl⟩ := hc
        exact howner ▸ hmem
      · simp [howner] at hc
    | _ => cases hc
  · exact fun h ↦ ⟨_, h, by simp⟩

theorem succeeded_append_entry {n : ℕ} {e : Event}
    {outs : List (Owned Call)} {key : LocationSessionKey} :
    Succeeded (hist ++ entry e outs) key n ↔
      Succeeded hist key n ∨ (some n, .responseCb key.client .success key.id) ∈ outs := by
  rw [Succeeded, Succeeded, mem_responsesTo, mem_responsesTo, callsOf_append_entry, mem_append]

/-! ## The invariant -/

/-- The commands with their numbers. -/
def numberedLog (log : List (CommandKind × LocationSessionKey)) :
    List (Owned (CommandKind × LocationSessionKey)) :=
  log.mapIdx fun n c ↦ (some n, c)

/-- The first `m` commands have been processed, and all sessions are sound. -/
structure Tracked (strict : Prop) (m : ℕ) (hist : List (Item Event (Owned Call)))
    (s : SessionSystem) : Prop where
  length : s.sys.commands.length = s.log.length
  registered : ∀ c ∈ s.log, s.sys.adapter.Registered c.2.client
  unique : ∀ (i j : ℕ) (key : LocationSessionKey), s.log[i]? = some (CommandKind.start, key) →
    s.log[j]? = some (CommandKind.start, key) → i = j
  le : m ≤ s.log.length
  queued : collect LocMsg.command s.sys.queue = (numberedLog s.log).drop m
  processed : ∀ n key, Succeeded hist key n → n < m
  sound : ∀ key, ∃ p, Sound s.sys.adapter.distanceBaseTrackingSupported strict key
    (Given s.log m key) (Succeeded hist key) (s.sys.adapter.held key) (s.sys.flights key) p

namespace Tracked

variable {strict : Prop} {m : ℕ} {hist : List (Item Event (Owned Call))} {s s' : SessionSystem}
  {e : Event} {outs : List (Owned Call)}

theorem initial (strict : Prop) (adapter : GnssAdapter) :
    Tracked strict 0 [] (SessionSystem.initial adapter) where
  length := rfl
  registered := by simp [SessionSystem.initial]
  unique := by simp [SessionSystem.initial]
  le := le_rfl
  queued := rfl
  processed := by simp [Succeeded, responsesTo, callsOf]
  sound key := ⟨.away, {
    phase := ⟨rfl, rfl⟩
    fits := by simp [SessionSystem.initial, TrackingSystem.flights, TrackingSystem.initial, collect]
    nodup := nodup_nil
    unanswered := by
      simp [SessionSystem.initial, TrackingSystem.flights, TrackingSystem.initial, collect]
    begun := Or.inr ⟨rfl, rfl, by simp [Given]⟩
    stopped := by simp [Given]
    started := by simp [Given] }⟩

/-- Where no command is given or processed, and nobody is answered, the requests may only change
their places. -/
theorem of_same (h : Tracked strict m hist s) (e : Event) (hlog : s'.log = s.log)
    (hcommands : s'.sys.commands = s.sys.commands)
    (hdata : s'.sys.adapter.mClientData = s.sys.adapter.mClientData)
    (hsupported : s'.sys.adapter.distanceBaseTrackingSupported =
      s.sys.adapter.distanceBaseTrackingSupported)
    (hheld : ∀ key, s'.sys.adapter.held key = s.sys.adapter.held key)
    (hqueue : collect LocMsg.command s'.sys.queue = collect LocMsg.command s.sys.queue)
    (hflights : ∀ key, (s'.sys.flights key).Perm (s.sys.flights key))
    (houts : ∀ c ∈ outs, c.2.answers = none) : Tracked strict m (hist ++ entry e outs) s' := by
  have hsucceeded : ∀ n key, Succeeded (hist ++ entry e outs) key n ↔ Succeeded hist key n := by
    intro n key
    rw [succeeded_append_entry]
    exact or_iff_left fun hmem ↦ by cases houts _ hmem
  refine ⟨?_, fun c hc ↦ ?_, ?_, ?_, ?_, fun n key hn ↦ ?_, fun key ↦ ?_⟩
  · rw [hcommands, hlog, h.length]
  · rw [GnssAdapter.Registered, hdata]
    exact h.registered c (hlog ▸ hc)
  · rw [hlog]
    exact h.unique
  · rw [hlog]
    exact h.le
  · rw [hqueue, hlog, h.queued]
  · exact h.processed n key ((hsucceeded n key).mp hn)
  · obtain ⟨p, hp⟩ := h.sound key
    rw [hsupported, hheld, hlog]
    exact ⟨p, hp.congr (fun _ _ ↦ Iff.rfl) (fun _ n _ ↦ hsucceeded n key) (hflights key)⟩

theorem give (h : Tracked strict m hist s) (e : Event) {sys : TrackingSystem}
    {key : LocationSessionKey} {msg : LocMsg} {kind : CommandKind}
    (hcommand : msg.command = some (kind, key))
    (hnew : kind = .start → (CommandKind.start, key) ∉ s.log)
    (hs : s.sys.give key msg = some (sys, outs)) :
    Tracked strict m (hist ++ entry e outs) ⟨sys, s.log ++ [(kind, key)]⟩ := by
  rw [TrackingSystem.give] at hs
  split at hs
  · next hreg =>
    obtain ⟨rfl, rfl⟩ := some_pair_inj hs
    have hsucceeded : ∀ n key', Succeeded (hist ++ entry e []) key' n ↔ Succeeded hist key' n := by
      intro n key'
      rw [succeeded_append_entry]
      simp
    have hgiven : ∀ key' k n,
        Given (s.log ++ [(kind, key)]) m key' k n ↔ Given s.log m key' k n := by
      intro key' k n
      refine and_congr_right fun hn ↦ ?_
      rw [getElem?_append_left (hn.trans_le h.le)]
    have hnone : msg.callback = none := by
      cases msg <;> first | rfl | cases hcommand
    refine ⟨by simp [h.length], ?_, ?_, ?_, ?_, fun n key' hn ↦ ?_, fun key' ↦ ?_⟩
    · intro c hc
      rcases mem_append.mp hc with hc | hc
      · exact h.registered c hc
      · rw [mem_singleton.mp hc]
        exact hreg
    · -- a session is started once
      have hlast : ∀ (i : ℕ) (key' : LocationSessionKey),
          (s.log ++ [(kind, key)])[i]? = some (CommandKind.start, key') →
          s.log[i]? = some (CommandKind.start, key') ∨
            i = s.log.length ∧ (CommandKind.start, key') ∉ s.log := by
        intro i key' hi
        rcases lt_or_ge i s.log.length with hlt | hge
        · exact Or.inl (by rwa [getElem?_append_left hlt] at hi)
        · rw [getElem?_append_right hge] at hi
          obtain ⟨hzero, heq⟩ := List.getElem?_eq_some_iff.mp hi
          rw [length_singleton, Nat.lt_one_iff] at hzero
          simp only [hzero, getElem_cons_zero, Prod.mk.injEq] at heq
          obtain ⟨rfl, rfl⟩ := heq
          exact Or.inr ⟨by omega, hnew rfl⟩
      intro i j key' hi hj
      rcases hlast i key' hi with hi' | ⟨rfl, hnot⟩ <;>
        rcases hlast j key' hj with hj' | ⟨rfl, hnot'⟩
      · exact h.unique i j key' hi' hj'
      · exact absurd (mem_of_getElem? hi') hnot'
      · exact absurd (mem_of_getElem? hj') hnot
      · rfl
    · simpa using h.le.trans (Nat.le_succ _)
    · have hlen : (numberedLog s.log).length = s.log.length := length_mapIdx
      have hconcat : numberedLog (s.log ++ [(kind, key)]) =
          numberedLog s.log ++ [(some s.log.length, (kind, key))] := mapIdx_concat
      have hmsg : collect LocMsg.command [(some s.sys.commands.length, msg)] =
          [(some s.log.length, (kind, key))] := by
        simp [collect, hcommand, h.length]
      rw [collect_append, h.queued, hmsg, hconcat, drop_append_of_le_length (hlen ▸ h.le)]
    · exact h.processed n key' ((hsucceeded n key').mp hn)
    · obtain ⟨p, hp⟩ := h.sound key'
      refine ⟨p, hp.congr (hgiven key') (fun _ n _ ↦ hsucceeded n key') (.of_eq ?_)⟩
      simp [TrackingSystem.flights, collect, hnone]
  · cases hs

end Tracked

/-! ## Processing a message -/

/-- The requests for a session are those that the calls leave behind. -/
theorem TrackingSystem.flights_perform (sys : TrackingSystem) (owner : Option ℕ)
    (result : GnssAdapter × List Call) (key : LocationSessionKey) :
    (sys.perform owner result).1.flights key = sys.flights key ++
      ((requestsOf result.2).filter fun c ↦ c.owes = some key).map (owner, ·) := by
  have hrequests : (result.2.filterMap fun c ↦ c.response.map (owner, ·)) =
      (result.2.filterMap Call.response).map (owner, ·) := by
    rw [map_filterMap]
  have hfilter : ((requestsOf result.2).filter fun c ↦ c.owes = some key) =
      (result.2.filterMap Call.response).filter fun c ↦ c.owes = some key := by
    rw [requestsOf, filter_filter]
    refine filter_congr fun c _ ↦ ?_
    cases c.owes <;> simp
  rw [hfilter, flights, flights, perform, ← append_assoc, filter_append, hrequests,
    filter_map]
  rfl

/-- The answer at the head of the queue is one of the requests under way for its session. -/
theorem TrackingSystem.flights_cons {sys : TrackingSystem} {owner : Option ℕ} {msg : LocMsg}
    {queue : List (Owned LocMsg)} (hqueue : sys.queue = (owner, msg) :: queue)
    (key : LocationSessionKey) :
    sys.flights key = ((msg.callback.filter fun c ↦ c.owes = some key).map (owner, ·)).toList ++
      { sys with queue := queue }.flights key := by
  rw [flights, hqueue, collect_cons, append_assoc, filter_append]
  congr 1
  rcases msg.callback with - | callback
  · rfl
  · by_cases h : callback.owes = some key <;> simp [Option.filter, h]

theorem LocMsg.owes_of_callback {msg : LocMsg} {callback : Callback}
    (h : msg.callback = some callback) : msg.owes = callback.owes ∧ msg.command = none := by
  cases msg with
  | startTracking | updateTracking | stopTracking => cases h
  | locApiResponse =>
    obtain rfl := Option.some_inj.mp h
    exact ⟨rfl, rfl⟩

/-- A message that owes something is a command for a session or the answer to a request for it. -/
theorem LocMsg.exists_command {msg : LocMsg} {key : LocationSessionKey}
    (h : msg.owes = some key) (hcb : msg.callback = none) :
    ∃ kind, msg.command = some (kind, key) := by
  cases msg with
  | startTracking key' o | updateTracking key' o | stopTracking key' =>
    obtain rfl : key' = key := Option.some_inj.mp h
    exact ⟨_, rfl⟩
  | locApiResponse => cases hcb

namespace Tracked

variable {strict : Prop} {m : ℕ} {hist : List (Item Event (Owned Call))} {s s' : SessionSystem}
  {e : Event} {outs : List (Owned Call)} {owner : Option ℕ} {msg : LocMsg}
  {queue : List (Owned LocMsg)} {key : LocationSessionKey}

variable (h : Tracked strict m hist s)
include h

section

variable (hqueue : s.sys.queue = (owner, msg) :: queue)
include hqueue

/-- The message at the head of the queue is for the next command or for one that has been
processed; so many have been processed afterwards. -/
theorem exists_turn (howes : msg.owes = some key) :
    ∃ n kind m', owner = some n ∧ s.log[n]? = some (kind, key) ∧ m ≤ m' ∧ n < m' ∧
      m' ≤ s.log.length ∧ collect LocMsg.command queue = (numberedLog s.log).drop m' ∧
      (∀ key' k j, Given s.log m' key' k j ↔
        Given s.log m key' k j ∨ key' = key ∧ k = kind ∧ j = n) ∧
      Turn key (Given s.log m key) (Succeeded hist key) (s.sys.flights key) msg n kind
        ({ s.sys with queue := queue }.flights key) := by
  have hunique : ∀ i j, Given s.log m key .start i → Given s.log m key .start j → i = j :=
    fun i j hi hj ↦ h.unique i j key hi.2 hj.2
  have hflights := TrackingSystem.flights_cons hqueue key
  have hcollect := h.queued
  rw [hqueue, collect_cons] at hcollect
  rcases hcb : msg.callback with - | callback
  · obtain ⟨kind, hcommand⟩ := LocMsg.exists_command howes hcb
    rw [hcb] at hflights
    simp only [hcommand, Option.map_some, Option.toList_some, singleton_append] at hcollect
    have hlen : (numberedLog s.log).length = s.log.length := length_mapIdx
    have hlt : m < (numberedLog s.log).length := by
      by_contra hge
      rw [drop_eq_nil_of_le (not_lt.mp hge)] at hcollect
      cases hcollect
    rw [drop_eq_getElem_cons hlt] at hcollect
    obtain ⟨hhead, htail⟩ := cons_eq_cons.mp hcollect
    simp only [numberedLog, getElem_mapIdx, Prod.mk.injEq] at hhead
    obtain ⟨rfl, hget⟩ := hhead
    have hm : s.log[m]? = some (kind, key) := List.getElem?_eq_some_iff.mpr ⟨hlen ▸ hlt, hget.symm⟩
    refine ⟨m, kind, m + 1, rfl, hm, Nat.le_succ m, Nat.lt_succ_self m, hlen ▸ hlt, htail, ?_, ?_⟩
    · intro key' k j
      rw [Given, Given, Nat.lt_succ_iff_lt_or_eq, or_and_right]
      refine or_congr_right ⟨?_, ?_⟩
      · rintro ⟨rfl, hj⟩
        rw [hm] at hj
        cases hj
        exact ⟨rfl, rfl, rfl⟩
      · rintro ⟨rfl, rfl, rfl⟩
        exact ⟨rfl, hm⟩
    · exact {
        perm := .of_eq (by simpa [hcb] using hflights)
        kind_eq := fun k hk ↦ absurd hk.1 (lt_irrefl m)
        unique := hunique
        command := fun _ ↦ hcommand
        new := fun _ ↦ ⟨fun hs ↦ lt_irrefl m (h.processed m key hs), fun k j hj ↦ hj.1⟩
        first := fun _ hk j hj ↦ by
          subst hk
          exact hj.1.ne (h.unique j m key hj.2 hm) }
  · obtain ⟨howes', hcommand⟩ := LocMsg.owes_of_callback hcb
    have hfilter : msg.callback.filter (fun c ↦ c.owes = some key) = some callback := by
      simp [hcb, Option.filter, ← howes', howes]
    rw [hfilter] at hflights
    obtain ⟨p, hp⟩ := h.sound key
    obtain ⟨n, kind, hn, hgiven, -⟩ := hp.fits (owner, callback) (by rw [hflights]; simp)
    obtain rfl : owner = some n := hn
    refine ⟨n, kind, m, rfl, hgiven.2, le_rfl, hgiven.1, h.le, ?_, fun key' k j ↦ ?_, ?_⟩
    · simpa [hcommand] using hcollect
    · refine (or_iff_left_of_imp ?_).symm
      rintro ⟨rfl, rfl, rfl⟩
      exact hgiven
    · have hne : msg.callback ≠ none := by simp [hcb]
      refine {
        perm := .of_eq (by rw [hflights, hcb])
        kind_eq := fun k hk ↦ ?_
        unique := hunique
        command := fun hnone ↦ absurd hnone hne
        new := fun hnone ↦ absurd hnone hne
        first := fun hnone ↦ absurd hnone hne }
      exact congrArg Prod.fst (Option.some_inj.mp (hk.2.symm.trans hgiven.2))

/-- A message that is for no command does nothing. -/
theorem proc_ignored (howes : msg.owes = none) :
    Tracked strict m (hist ++ entry .proc ({ s.sys with queue := queue }.perform owner
        (s.sys.adapter.proc msg)).2)
      ⟨({ s.sys with queue := queue }.perform owner (s.sys.adapter.proc msg)).1, s.log⟩ := by
  obtain ⟨err, rfl⟩ : ∃ err, msg = .locApiResponse .ignore err := by
    cases msg with
    | startTracking | updateTracking | stopTracking => cases howes
    | locApiResponse callback err => cases callback <;> first | exact ⟨err, rfl⟩ | cases howes
  refine h.of_same _ rfl rfl rfl rfl (fun _ ↦ rfl) ?_ (fun key ↦ .of_eq ?_) ?_
  · rw [hqueue, collect_cons]
    rfl
  · rw [TrackingSystem.flights_perform, TrackingSystem.flights_cons hqueue]
    simp [GnssAdapter.proc, GnssAdapter.locApiResponseProc, requestsOf, LocMsg.callback,
      Option.filter, Callback.owes]
  · simp [TrackingSystem.perform, GnssAdapter.proc, GnssAdapter.locApiResponseProc]

theorem proc_owed (howes : msg.owes = some key) (hkeeps : s.NextKeeps .proc)
    (hunstopped : strict → s.NextKeepsUnstopped .proc) :
    ∃ m', Tracked strict m' (hist ++ entry .proc ({ s.sys with queue := queue }.perform owner
        (s.sys.adapter.proc msg)).2)
      ⟨({ s.sys with queue := queue }.perform owner (s.sys.adapter.proc msg)).1, s.log⟩ := by
  obtain ⟨n, kind, m', rfl, hn, hm, hlt, hle, hqueued, hgiven, hturn⟩ := h.exists_turn hqueue howes
  have hreg : s.sys.adapter.Registered key.client := h.registered _ (mem_of_getElem? hn)
  obtain ⟨x, c, r, hreacts, hfollows⟩ := GnssAdapter.exists_reacts howes hreg
  have hconfig := s.sys.adapter.config_proc msg
  have hhead : (some n, msg) ∈ s.sys.queue.head? := by
    rw [hqueue]
    rfl
  have hkeeps' := hkeeps _ hhead key howes n rfl _ hn
  obtain ⟨p, hp⟩ := h.sound key
  obtain ⟨p', hp'⟩ := hp.step hturn hreacts hkeeps' fun hs ↦
    hunstopped hs _ hhead key howes n rfl _ hn
  have hsucceeded : ∀ key' j, Succeeded (hist ++ entry .proc
      ({ s.sys with queue := queue }.perform (some n) (s.sys.adapter.proc msg)).2) key' j ↔
        Succeeded hist key' j ∨ j = n ∧
          .responseCb key'.client .success key'.id ∈ (s.sys.adapter.proc msg).2 := by
    intro key' j
    rw [succeeded_append_entry]
    refine or_congr_right ?_
    rw [TrackingSystem.perform, mem_map]
    constructor
    · rintro ⟨call, hcall, heq⟩
      cases heq
      exact ⟨rfl, hcall⟩
    · rintro ⟨rfl, hcall⟩
      exact ⟨_, hcall, rfl⟩
  refine ⟨m', h.length, fun c hc ↦ (h.registered c hc).of_config hconfig, h.unique, hle, hqueued,
    fun j key' hj ↦ ?_, fun key' ↦ ?_⟩
  · rcases (hsucceeded key' j).mp hj with hj | ⟨rfl, -⟩
    · exact (h.processed j key' hj).trans_le hm
    · exact hlt
  have hsupported : (s.sys.adapter.proc msg).1.distanceBaseTrackingSupported =
      s.sys.adapter.distanceBaseTrackingSupported := congrArg (fun c ↦ c.2.2.2.1) hconfig
  have hflights := TrackingSystem.flights_perform { s.sys with queue := queue } (some n)
    (s.sys.adapter.proc msg) key'
  rw [hfollows.requests] at hflights
  by_cases hkey : key' = key
  · subst hkey
    refine ⟨p', ?_⟩
    have hheld : GnssAdapter.held (s.sys.adapter.proc msg).1 key' = x := hfollows.held
    change Sound (s.sys.adapter.proc msg).1.distanceBaseTrackingSupported _ _ _ _
      ((s.sys.adapter.proc msg).1.held key') _ _
    rw [hsupported, hheld]
    refine hp'.congr (fun k j ↦ ?_) (fun k j _ ↦ ?_) (.of_eq ?_)
    · simpa using hgiven key' k j
    · rw [hsucceeded, hfollows.reports]
    · rw [hflights]
      congr 1
      rcases c with - | callback
      · rfl
      · simp [hreacts.owes callback rfl]
  · obtain ⟨p₁, hp₁⟩ := h.sound key'
    refine ⟨p₁, ?_⟩
    change Sound (s.sys.adapter.proc msg).1.distanceBaseTrackingSupported _ _ _ _
      ((s.sys.adapter.proc msg).1.held key') _ _
    rw [hsupported, hfollows.others key' hkey]
    refine hp₁.congr (fun k j ↦ ?_) (fun k j hj ↦ ?_) (.of_eq ?_)
    · simpa [hkey] using hgiven key' k j
    · rw [hsucceeded]
      refine or_iff_left ?_
      -- the command of the message is one for another session
      rintro ⟨rfl, -⟩
      rw [hj.2] at hn
      exact hkey (congrArg Prod.snd (Option.some_inj.mp hn))
    · have hnew : (c.toList.filter fun callback ↦ callback.owes = some key') = [] := by
        rcases c with - | callback
        · rfl
        · simp [hreacts.owes callback rfl, Ne.symm hkey]
      have hold : msg.callback.filter (fun callback ↦ callback.owes = some key') = none := by
        rcases hcb : msg.callback with - | callback
        · rfl
        · have hne := (LocMsg.owes_of_callback hcb).1
          simp [Option.filter, ← hne, howes, Ne.symm hkey]
      rw [hflights, hnew, TrackingSystem.flights_cons hqueue, hold]
      simp

end

theorem of_restartSessions :
    Tracked strict m (hist ++ entry .restartSessions
      (s.sys.perform none s.sys.adapter.restartSessions).2)
      ⟨(s.sys.perform none s.sys.adapter.restartSessions).1, s.log⟩ := by
  have hconfig := s.sys.adapter.config_restartSessions
  have hheld : s.sys.adapter.restartSessions.1.held = s.sys.adapter.held := by
    simp only [GnssAdapter.restartSessions, GnssAdapter.checkAndRestartTimeBasedSession]
    split
    · exact GnssAdapter.held_checkAndSetSPEToRunforNHz _ _
    · rfl
  have hsettles : ∀ c ∈ s.sys.adapter.restartSessions.2,
      c.answers = none ∧ c.response.bind Callback.owes = none := fun c hc ↦
    Option.or_eq_none_iff.mp
      (filterMap_eq_nil_iff.mp GnssAdapter.settles_restartSessions c hc)
  have hrequests : requestsOf s.sys.adapter.restartSessions.2 = [] := by
    refine filter_eq_nil_iff.mpr fun callback hmem ↦ ?_
    obtain ⟨c, hc, hresponse⟩ := mem_filterMap.mp hmem
    have howes := (hsettles c hc).2
    rw [hresponse, Option.bind_some] at howes
    simp [howes]
  refine h.of_same _ rfl rfl (congrArg Prod.fst hconfig)
    (congrArg (fun c ↦ c.2.2.2.1) hconfig) (fun key ↦ congrFun hheld key) rfl
    (fun key ↦ .of_eq ?_) fun c hc ↦ ?_
  · rw [TrackingSystem.flights_perform, hrequests]
    simp
  · obtain ⟨call, hcall, rfl⟩ := mem_map.mp hc
    exact (hsettles call hcall).1

theorem step (hkeeps : s.NextKeeps e)
    (hunstopped : strict → s.NextKeepsUnstopped e) (hs : s.step e = some (s', outs)) :
    ∃ m', Tracked strict m' (hist ++ entry e outs) s' := by
  obtain ⟨⟨sys, outs'⟩, hsys, heq⟩ := Option.map_eq_some_iff.mp hs
  obtain ⟨rfl, rfl⟩ := Prod.mk.inj heq
  cases e with
  | startTrackingCommand client options =>
    have h' : Tracked strict m hist
        { s with sys.mSessionIdCounter := generateSessionId s.sys.mSessionIdCounter } :=
      ⟨h.length, h.registered, h.unique, h.le, h.queued, h.processed, h.sound⟩
    exact ⟨m, h'.give _ rfl (fun _ ↦ hkeeps) hsys⟩
  | updateTrackingOptionsCommand client id options =>
    exact ⟨m, h.give _ rfl (fun hk ↦ by cases hk) hsys⟩
  | stopTrackingCommand client id => exact ⟨m, h.give _ rfl (fun hk ↦ by cases hk) hsys⟩
  | proc =>
    rw [TrackingSystem.step] at hsys
    split at hsys
    · cases hsys
    · next owner msg queue hqueue =>
      obtain ⟨rfl, rfl⟩ := some_pair_inj hsys
      simp only [Event.command, Option.toList_none, List.append_nil]
      rcases howes : msg.owes with - | key
      · exact ⟨m, h.proc_ignored hqueue howes⟩
      · exact h.proc_owed hqueue howes hkeeps hunstopped
  | returnToSender i err =>
    rw [TrackingSystem.step] at hsys
    split at hsys
    · cases hsys
    · next owner callback hi =>
      obtain ⟨rfl, rfl⟩ := some_pair_inj hsys
      refine ⟨m, h.of_same _ (List.append_nil _) rfl rfl rfl (fun _ ↦ rfl) ?_ (fun key ↦ ?_)
        (by simp)⟩
      · rw [collect_append]
        exact List.append_nil _
      · -- the request is under way as before
        rw [TrackingSystem.flights, TrackingSystem.flights, collect_append, append_assoc]
        obtain ⟨hlt, hget⟩ := List.getElem?_eq_some_iff.mp hi
        have hperm : ([(owner, callback)] ++ s.sys.awaiting.eraseIdx i).Perm s.sys.awaiting := by
          rw [← hget]
          exact getElem_cons_eraseIdx_perm hlt
        exact (hperm.append_left _).filter _
  | setEngineLockState state | setNHzNeeded needed =>
    obtain ⟨rfl, rfl⟩ := some_pair_inj hsys
    exact ⟨m, h.of_same _ (List.append_nil _) rfl rfl rfl (fun _ ↦ rfl) rfl (fun _ ↦ .refl _)
      (by simp)⟩
  | restartSessions =>
    obtain ⟨rfl, rfl⟩ := some_pair_inj hsys
    simp only [Event.command, Option.toList_none, List.append_nil]
    exact ⟨m, h.of_restartSessions⟩

/-- A session that was stopped with success is in neither map. -/
theorem away {n : ℕ} (hn : s.IsCommand n .stop key)
    (hs : Succeeded hist key n) : s.sys.adapter.isTimeBasedTrackingSession key = false ∧
      s.sys.adapter.isDistanceBasedTrackingSession key = false := by
  obtain ⟨p, hp⟩ := h.sound key
  obtain rfl := hp.stopped n ⟨h.processed n key hs, hn⟩ (Or.inl hs)
  have hnothing : s.sys.adapter.held key = .nothing := hp.phase.1
  exact ⟨congrArg (·.time.isSome) hnothing, congrArg (·.dist.isSome) hnothing⟩

/-- A session that was started with success, and not stopped, is in one of the maps when nothing is
under way. -/
theorem here (hq : s.sys.Quiet) {n : ℕ} (hn : s.IsCommand n .start key) (hs : Succeeded hist key n)
    (hstops : ∀ j, n < j → s.IsCommand j .stop key → strict ∧ ¬Succeeded hist key j) :
    s.sys.adapter.isTimeBasedTrackingSession key ≠
      s.sys.adapter.isDistanceBasedTrackingSession key := by
  obtain ⟨p, hp⟩ := h.sound key
  have hflights : s.sys.flights key = [] := by
    rw [TrackingSystem.flights, hq.1, hq.2]
    rfl
  have hphase := hp.phase
  rw [hflights] at hphase
  have hp' := hp.started n ⟨h.processed n key hs, hn⟩ (Or.inl hs) fun j hj hlt ↦ by
    obtain ⟨hstrict, hnot⟩ := hstops j hlt hj.2
    refine ⟨hstrict, ?_⟩
    rw [Done, hflights]
    simpa using hnot
  cases p with
  | away => exact absurd rfl hp'
  | switching => cases hphase.2
  | here =>
    change (s.sys.adapter.held key).time.isSome ≠ (s.sys.adapter.held key).dist.isSome
    rcases hphase.1 with ⟨o, -, hone⟩ | ⟨o, -, hone⟩ <;> rw [hone] <;> simp

end Tracked

/-! ## The law -/

namespace SessionSystem

theorem tracked_of_run (strict : Prop) {adapter : GnssAdapter}
    {hist : List (Item Event (Owned Call))} {s : SessionSystem}
    (h : Run step (fun s e ↦ s.NextKeeps e ∧ (strict → s.NextKeepsUnstopped e)) (initial adapter)
      hist s) : ∃ m, Tracked strict m hist s :=
  h.invariant (I := fun hist s ↦ ∃ m, Tracked strict m hist s) ⟨0, .initial strict adapter⟩
    fun ⟨_, ht⟩ hg hs ↦ ht.step hg.1 hg.2 hs

/-- In a run whose callbacks keep the sessions where they are, a session that was stopped with
success is in neither map, and one that was started with success and for which no stop was given is
in exactly one of them as soon as all messages are processed and all requests answered; if also the
stops that fail keep their sessions, a stop that was not answered with success does not count. -/
theorem kept_of_run {adapter : GnssAdapter} {hist : List (Item Event (Owned Call))}
    {s : SessionSystem} :
    (Run step NextKeeps (initial adapter) hist s →
      (∀ (n : ℕ) (key : LocationSessionKey), s.IsCommand n .stop key →
        Succeeded hist key n → s.sys.adapter.isTimeBasedTrackingSession key = false ∧
          s.sys.adapter.isDistanceBasedTrackingSession key = false) ∧
      (s.sys.Quiet → ∀ (n : ℕ) (key : LocationSessionKey),
        s.IsCommand n .start key → Succeeded hist key n →
        (∀ j, n < j → ¬s.IsCommand j .stop key) →
        s.sys.adapter.isTimeBasedTrackingSession key ≠
          s.sys.adapter.isDistanceBasedTrackingSession key)) ∧
    (Run step (fun s e ↦ s.NextKeeps e ∧ s.NextKeepsUnstopped e) (initial adapter) hist s →
      s.sys.Quiet → ∀ (n : ℕ) (key : LocationSessionKey),
        s.IsCommand n .start key → Succeeded hist key n →
        (∀ j, n < j → s.IsCommand j .stop key → ¬Succeeded hist key j) →
        s.sys.adapter.isTimeBasedTrackingSession key ≠
          s.sys.adapter.isDistanceBasedTrackingSession key) := by
  refine ⟨fun h ↦ ?_, fun h hq n key hn hs hstops ↦ ?_⟩
  · obtain ⟨m, ht⟩ := tracked_of_run False (h.mono fun _ _ hkeeps ↦ ⟨hkeeps, False.elim⟩)
    exact ⟨fun n key hn hs ↦ ht.away hn hs, fun hq n key hn hs hstops ↦
      ht.here hq hn hs fun j hlt hj ↦ absurd hj (hstops j hlt)⟩
  · obtain ⟨m, ht⟩ := tracked_of_run True (h.mono fun _ _ hg ↦ ⟨hg.1, fun _ ↦ hg.2⟩)
    exact ht.here hq hn hs fun j hlt hj ↦ ⟨trivial, hstops j hlt hj⟩

/-- Two sessions of a client: the first is switched from time to distance and back and then stopped,
the second is started, updated and stays. -/
theorem kept_of_run_two :
    ∃ hist s, Run step NextKeeps (initial sampleAdapter) hist s ∧
      Run step (fun s e ↦ s.NextKeeps e ∧ s.NextKeepsUnstopped e) (initial sampleAdapter) hist s ∧
      s.sys.adapter.isTimeBasedTrackingSession ⟨1, 2⟩ = false ∧
      s.sys.adapter.isDistanceBasedTrackingSession ⟨1, 2⟩ = false ∧
      s.sys.adapter.isTimeBasedTrackingSession ⟨1, 3⟩ ≠
        s.sys.adapter.isDistanceBasedTrackingSession ⟨1, 3⟩ := by
  obtain ⟨hist, s, hrun, hq, hlog, hstarted, hstopped⟩ := Run.exists_of_runEvents step
    (fun s e ↦ s.NextKeeps e ∧ s.NextKeepsUnstopped e) (initial sampleAdapter)
    [.startTrackingCommand 1 (sampleOptions 1000 0 .m2), .proc, .returnToSender 0 .success, .proc,
      .startTrackingCommand 1 (sampleOptions 1000 50 .m2), .proc, .returnToSender 0 .success, .proc,
      .updateTrackingOptionsCommand 1 2 (sampleOptions 1000 50 .m2), .proc,
      .updateTrackingOptionsCommand 1 3 (sampleOptions 2000 80 .m2), .proc,
      .returnToSender 0 .success, .proc, .returnToSender 0 .success, .proc,
      .returnToSender 0 .success, .proc, .returnToSender 0 .success, .proc,
      .updateTrackingOptionsCommand 1 2 (sampleOptions 500 0 .m2), .proc,
      .returnToSender 0 .success, .proc, .returnToSender 0 .success, .proc,
      .stopTrackingCommand 1 2, .proc, .returnToSender 0 .success, .proc]
    (fun hist s ↦ s.sys.Quiet ∧
      s.log = [(.start, ⟨1, 2⟩), (.start, ⟨1, 3⟩), (.update, ⟨1, 2⟩), (.update, ⟨1, 3⟩),
        (.update, ⟨1, 2⟩), (.stop, ⟨1, 2⟩)] ∧
      Succeeded hist ⟨1, 3⟩ 1 ∧ Succeeded hist ⟨1, 2⟩ 5) (by decide +kernel)
  have hrun' := hrun.mono fun _ _ hg ↦ hg.1
  have haway := (kept_of_run.1 hrun').1 5 ⟨1, 2⟩ (by rw [IsCommand, hlog]; rfl) hstopped
  refine ⟨hist, s, hrun', hrun, haway.1, haway.2,
    kept_of_run.2 hrun hq 1 ⟨1, 3⟩ (by rw [IsCommand, hlog]; rfl) hstarted fun j _ hj ↦ ?_⟩
  rw [IsCommand, hlog] at hj
  have hmem := mem_of_getElem? hj
  simp at hmem

/-- With answers in the order of the requests: a session comes back after its stop, with the restart
that an update has asked for before; a session gets into both maps, one with the options that a
failed update restores; and a session is lost that could not be restarted as a time based one. -/
theorem not_kept :
    (∃ hist s, Run step (fun _ _ ↦ True) (initial sampleAdapter) hist s ∧
      s.log = [(.start, ⟨1, 2⟩), (.update, ⟨1, 2⟩), (.stop, ⟨1, 2⟩)] ∧ Succeeded hist ⟨1, 2⟩ 2 ∧
      s.sys.adapter.isDistanceBasedTrackingSession ⟨1, 2⟩ = true) ∧
    (∃ hist s, Run step (fun _ _ ↦ True) (initial sampleAdapter) hist s ∧ s.sys.Quiet ∧
      s.log = [(.start, ⟨1, 2⟩), (.update, ⟨1, 2⟩), (.update, ⟨1, 2⟩)] ∧
      Succeeded hist ⟨1, 2⟩ 0 ∧ s.sys.adapter.isTimeBasedTrackingSession ⟨1, 2⟩ = true ∧
      s.sys.adapter.isDistanceBasedTrackingSession ⟨1, 2⟩ = true) ∧
    ∃ hist s, Run step (fun _ _ ↦ True) (initial sampleAdapter) hist s ∧ s.sys.Quiet ∧
      s.log = [(.start, ⟨1, 2⟩), (.update, ⟨1, 2⟩)] ∧ Succeeded hist ⟨1, 2⟩ 0 ∧
      s.sys.adapter.isTimeBasedTrackingSession ⟨1, 2⟩ = false ∧
      s.sys.adapter.isDistanceBasedTrackingSession ⟨1, 2⟩ = false := by
  refine ⟨?_, ?_, ?_⟩
  · exact Run.exists_of_decide
      [.startTrackingCommand 1 (sampleOptions 1000 50 .m2), .proc, .returnToSender 0 .success,
        .proc, .updateTrackingOptionsCommand 1 2 (sampleOptions 1000 80 .m2), .proc,
        .stopTrackingCommand 1 2, .proc, .returnToSender 0 .success, .proc,
        .returnToSender 0 .success, .proc, .returnToSender 0 .success, .proc] (by decide +kernel)
  · exact Run.exists_of_decide
      [.startTrackingCommand 1 (sampleOptions 1000 0 .m2), .proc, .returnToSender 0 .success, .proc,
        .updateTrackingOptionsCommand 1 2 (sampleOptions 2000 0 .m2), .proc,
        .updateTrackingOptionsCommand 1 2 (sampleOptions 2000 50 .m2), .proc,
        .returnToSender 0 .generalFailure, .proc, .returnToSender 0 .success, .proc,
        .returnToSender 0 .success, .proc] (by decide +kernel)
  · exact Run.exists_of_decide
      [.startTrackingCommand 1 (sampleOptions 1000 50 .m2), .proc, .returnToSender 0 .success,
        .proc, .updateTrackingOptionsCommand 1 2 (sampleOptions 1000 0 .m2), .proc,
        .returnToSender 0 .success, .proc, .returnToSender 0 .timeout, .proc] (by decide +kernel)

end SessionSystem

end MataDevice.Tracking
