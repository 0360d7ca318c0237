import MataDevice.ClientApi.System

/-!
# Starting a batching session

The documentation of `startTripBatchingSession` and `startRoutineBatchingSession` says that a start
has the same result whatever happened before. It has not. Whether the client sends anything depends
on its position session: with one, the options are compared with themselves and nothing is sent. And
the daemon does not heed a start while it runs a batching session. So the session that is asked for
runs exactly if there was neither of the two, or if it was running already.
-/

namespace MataDevice.ClientApi

open MataDevice.Tracking (GnssSuplMode)
open MataDevice.Batching (BatchingMode)

/-- What the handler of a start sends, from a client that is registered. Nothing is posted. -/
theorem LocationClientApiImpl.proc_startBatching {c : LocationClientApiImpl}
    (h : c.mHalRegistered = true) (options : HalDaemon.BatchingOptions) :
    (c.proc (.startBatching options)).2 =
      (if c.mSessionId then [] else [.request (.startBatching options.minInterval
        options.minDistance options.batchingMode)], []) := by
  cases hsession : c.mSessionId with
  | false => simp [proc, startBatching, h, hsession]
  | true => simp [proc, startBatching, updateBatchingOptions, h, hsession]

namespace System

/-- Only what was posted or sent before is processed. -/
def Processing (_ : System) : Event → Prop
  | .proc | .deliver _ => True
  | .call _ | .post | .onReceive | .capabilities | .restart => False

instance (s : System) : ∀ e, Decidable (s.Processing e)
  | .proc | .deliver _ => inferInstanceAs (Decidable True)
  | .call _ | .post | .onReceive | .capabilities | .restart => inferInstanceAs (Decidable False)

variable {s s' : System} {hist hist' : List (Item Event Empty)} {mode : GnssSuplMode}
  {interval distance : UInt32} {batchingMode : BatchingMode}

/-- The batching session of the daemon, once it has handled what is on its way. -/
def batchingAhead (s : System) : Option HalDaemon.BatchingOptions := s.ahead.bind View.batching

/-- The daemon runs exactly one batching session for the client, with these options. -/
def RunsBatching (s : System) (options : HalDaemon.BatchingOptions) : Prop :=
  ∃ c ∈ s.daemon, ∃ id, c.api.batching = [(id, options)]

/-- In the end the session runs that the view shows. -/
theorem runsBatching_iff (h : s.Connected) (hquiet : s.Quiescent)
    {options : HalDaemon.BatchingOptions} :
    s.RunsBatching options ↔ s.batchingAhead = some options := by
  rw [batchingAhead, hquiet.ahead_eq]
  cases hd : s.daemon with
  | none => simp [RunsBatching, hd]
  | some c =>
    have hsound : Sound c := h.sound c hd
    simp only [RunsBatching, hd, Option.mem_def, Option.some.injEq, exists_eq_left',
      Option.map_some, Option.bind_some, viewOf]
    by_cases hid : c.handler.mBatchingId = 0
    · have hnil : c.api.batching = [] := (hid ▸ hsound.batching).eq_nil
      simp [hnil]
    · obtain ⟨options', hone⟩ := hsound.batching.exists_of_ne hid
      simp [hone]

/-- The start, and how the daemon will look after it. -/
theorem batchingAhead_afterProc (h : s.Connected) (msgs : List LocMsg) :
    (s.afterProc msgs
        (s.client.proc (.startBatching ⟨interval, distance, .standalone, batchingMode⟩))).batchingAhead =
      some ⟨interval, distance, .standalone, batchingMode⟩ ↔
    s.client.mSessionId = false ∧ s.batchingAhead = none ∨
      s.batchingAhead = some ⟨interval, distance, .standalone, batchingMode⟩ := by
  obtain ⟨view, hview⟩ := Option.isSome_iff_exists.mp h.daemon
  rw [batchingAhead, batchingAhead, ahead_afterProc,
    LocationClientApiImpl.proc_startBatching h.client, hview]
  cases hsession : s.client.mSessionId with
  | true => simp
  | false =>
    cases hbatching : view.batching with
    | none => simp [viewStep, View.handle, hbatching]
    | some options => simp [viewStep, View.handle, hbatching]

/-- While the last message is waiting, or after it. -/
structure Finishing (s₀ : System) (msg : LocMsg) (s : System) : Prop where
  connected : s.Connected
  state : s.msgs = [msg] ∧ s.client = s₀.client ∧ s.ahead = s₀.ahead ∧
      s.mPositionMode = s₀.mPositionMode ∨
    s.msgs = [] ∧ s.ahead = (s₀.afterProc [] (s₀.client.proc msg)).ahead

/-- The last message is processed once, and what is on its way to the daemon is handled. -/
theorem Finishing.moves {s₀ : System} {msg : LocMsg} {e : Event} (h : Finishing s₀ msg s)
    (hposts : (s₀.client.proc msg).2.2 = []) (hg : s.Processing e) (hm : s.Moves e s') :
    Finishing s₀ msg s' := by
  have hconn : s'.Connected := by
    refine h.connected.moves ?_ hm
    cases e with
    | proc | deliver => trivial
    | call | post | onReceive | capabilities | restart => exact hg.elim
  refine ⟨hconn, ?_⟩
  cases hm with
  | call | post | onReceive | capabilities | restart => exact hg.elim
  | deliver hto hid =>
    rw [h.connected.sound.ahead_deliver hto hid]
    exact h.state
  | proc hmsgs =>
    rcases h.state with ⟨hone, hclient, hahead, hmode⟩ | ⟨hnil, -⟩
    · obtain ⟨rfl, rfl⟩ := List.cons_eq_cons.mp (hmsgs.symm.trans hone)
      refine Or.inr ⟨?_, ?_⟩
      · rw [afterProc, hclient, hposts, List.nil_append]
      · rw [ahead_afterProc, ahead_afterProc, hclient, hahead, hmode]
    · rw [hnil] at hmsgs
      cases hmsgs

/-- **A start is contextual.** Let the handler of a batching start be the last one to run. When
everything is processed, the daemon runs exactly this session if and only if the client had no
position session and the daemon no batching session, or the daemon was to run this one already. -/
theorem runsBatching_of_start_iff (h : Run step Calm (registered mode) hist s)
    (hlast : s.posting = [] ∧
      s.msgs = [.startBatching ⟨interval, distance, .standalone, batchingMode⟩])
    (h' : Run step Processing s hist' s') (hquiet : s'.Quiescent) :
    s'.RunsBatching ⟨interval, distance, .standalone, batchingMode⟩ ↔
      s.client.mSessionId = false ∧ s.batchingAhead = none ∨
        s.batchingAhead = some ⟨interval, distance, .standalone, batchingMode⟩ := by
  have hconn : s.Connected := .of_run h
  have hposts := congrArg Prod.snd (LocationClientApiImpl.proc_startBatching hconn.client
    ⟨interval, distance, .standalone, batchingMode⟩)
  have hend : Finishing s (.startBatching ⟨interval, distance, .standalone, batchingMode⟩) s' :=
    h'.invariant (I := fun _ t ↦ Finishing s _ t) ⟨hconn, Or.inl ⟨hlast.2, rfl, rfl, rfl⟩⟩
      fun hI hg hs ↦ hI.moves hposts hg (moves_of_step hs)
  rcases hend.state with ⟨hone, -⟩ | ⟨-, hahead⟩
  · rw [hquiet.2.1] at hone
    cases hone
  · rw [runsBatching_iff hend.connected hquiet, ← batchingAhead_afterProc hconn [], batchingAhead,
      batchingAhead, hahead]

/-- A routine session, stopped and followed by a trip. -/
theorem runsBatching_of_start_iff_trip : ∃ hist s hist' s',
    Run step Calm (registered .standalone) hist s ∧ Run step Processing s hist' s' ∧
      s'.Quiescent ∧ s'.RunsBatching ⟨2000, 100, .standalone, .trip⟩ := by
  obtain ⟨hist, s, hrun, hposting, hmsgs, hsession, hahead, hrest⟩ :=
    Run.exists_of_runEvents step Calm (registered .standalone)
    [.call (.startRoutineBatchingSession 1000 0), .post, .post, .post, .proc, .proc, .proc,
      .deliver 1, .deliver 1, .call .stopBatchingSession, .post, .proc,
      .call (.startTripBatchingSession 2000 100), .post, .post, .post, .proc, .proc]
    (fun _ s ↦ s.posting = [] ∧
      s.msgs = [.startBatching ⟨2000, 100, .standalone, .trip⟩] ∧
      s.client.mSessionId = false ∧ s.batchingAhead = none ∧
      (runEvents step Processing [] s [.proc, .deliver 2, .deliver 2, .deliver 2]).any
        (fun r ↦ r.2.Quiescent) = true) (by decide +kernel)
  obtain ⟨hist', s', hrun', hquiet⟩ := Run.exists_of_runEvents step Processing s _
    (fun _ s ↦ s.Quiescent) hrest
  exact ⟨hist, s, hist', s', hrun, hrun', hquiet,
    (runsBatching_of_start_iff hrun ⟨hposting, hmsgs⟩ hrun' hquiet).mpr (Or.inl ⟨hsession, hahead⟩)⟩

/-- A trip that is started during a routine session: the daemon goes on with the routine. -/
theorem not_runsBatching_of_start : ¬∀ mode hist s interval distance batchingMode hist' s',
    Run step Calm (registered mode) hist s →
    s.posting = [] ∧ s.msgs = [.startBatching ⟨interval, distance, .standalone, batchingMode⟩] →
    Run step Processing s hist' s' → s'.Quiescent →
    s'.RunsBatching ⟨interval, distance, .standalone, batchingMode⟩ := by
  intro hall
  obtain ⟨hist, s, hrun, hposting, hmsgs, hrest⟩ :=
    Run.exists_of_runEvents step Calm (registered .standalone)
    [.call (.startRoutineBatchingSession 1000 0), .post, .post, .post, .proc, .proc, .proc,
      .deliver 1, .deliver 1, .call (.startTripBatchingSession 2000 100), .post, .post, .post,
      .proc, .proc]
    (fun _ s ↦ s.posting = [] ∧
      s.msgs = [.startBatching ⟨2000, 100, .standalone, .trip⟩] ∧
      (runEvents step Processing [] s [.proc, .deliver 2, .deliver 2]).any
        (fun r ↦ decide (r.2.Quiescent ∧ r.2.daemon.map (·.api.batching) =
          some [(1, ⟨1000, 0, .standalone, .routine⟩)])) = true) (by decide +kernel)
  obtain ⟨hist', s', hrun', hquiet, hdaemon⟩ := Run.exists_of_runEvents step Processing s _
    (fun _ s ↦ s.Quiescent ∧ s.daemon.map (·.api.batching) =
      some [(1, ⟨1000, 0, .standalone, .routine⟩)]) hrest
  obtain ⟨c, hc, id, hbatching⟩ := hall _ hist s 2000 100 .trip hist' s' hrun ⟨hposting, hmsgs⟩ hrun'
    hquiet
  rw [Option.mem_def.mp hc, Option.map_some, hbatching] at hdaemon
  simp at hdaemon

end System

end MataDevice.ClientApi
