import MataDevice.Lib.History

/-!
# Throttled requests for on demand positions

The modem asks for positions with START and STOP requests that come in quick succession, and
`GnssAdapter` passes them to the framework. To spare the framework it passes a START only when no
request is active and no timer runs, and otherwise leaves it to the timer, which passes the latest
request again each time it expires and stops once no request is active. An emergency request does
not wait: it is passed at once, unless the latest START was an emergency request too. This is so
also when that one has been stopped since, so that an emergency request that is started again while
the timer still runs has to wait for it.

The timer expires on a thread of its own, which stops it and then sends a message. So there can be
messages of earlier expiries in the queue when the timer is restarted.
-/

namespace MataDevice.Odcpi

/-! ## The adapter -/

inductive OdcpiRequestType
  | start
  | stop
  deriving DecidableEq, Repr

structure OdcpiRequestInfo where
  type : OdcpiRequestType
  tbfMillis : UInt32
  isEmergencyMode : Bool
  deriving DecidableEq, Repr

structure OdcpiTimer where
  mActive : Bool
  /-- Whether the `LocTimer` has a delegate. -/
  mTimer : Bool
  deriving DecidableEq, Repr

namespace OdcpiTimer

/-- `LocTimer::start` keeps the delegate it has. -/
def start (_ : OdcpiTimer) : OdcpiTimer := ⟨true, true⟩

def stop (_ : OdcpiTimer) : OdcpiTimer := ⟨false, false⟩

def restart (t : OdcpiTimer) : OdcpiTimer := t.stop.start

end OdcpiTimer

/-- The messages that ODCPI depends on. -/
inductive LocMsg
  | requestOdcpi (request : OdcpiRequestInfo)
  | odcpiTimerExpire
  /-- `restartSessions` after an engine up event -/
  | restartSessions
  deriving DecidableEq, Repr

structure GnssAdapter where
  mOdcpiRequestActive : Bool
  mOdcpiTimer : OdcpiTimer
  mOdcpiRequest : OdcpiRequestInfo
  deriving DecidableEq, Repr

namespace GnssAdapter

variable (a : GnssAdapter)

/-- With what is passed to `mOdcpiRequestCb`. -/
def requestOdcpi (request : OdcpiRequestInfo) : GnssAdapter × List OdcpiRequestInfo :=
  match request.type with
  | .start =>
    let (a, passed) :=
      if !a.mOdcpiRequestActive && !a.mOdcpiTimer.mActive then
        ({ a with mOdcpiRequestActive := true, mOdcpiTimer := a.mOdcpiTimer.start }, [request])
      -- an emergency request replaces one that is none
      else if !a.mOdcpiRequest.isEmergencyMode && request.isEmergencyMode then
        ({ a with
            mOdcpiRequestActive := true
            mOdcpiTimer :=
              if a.mOdcpiTimer.mActive then a.mOdcpiTimer.restart else a.mOdcpiTimer.start },
          [request])
      else if !a.mOdcpiRequestActive && a.mOdcpiTimer.mActive then
        ({ a with mOdcpiRequestActive := true }, [])
      else (a, [])
    ({ a with mOdcpiRequest := request }, passed)
  -- the timer runs on, in case that more requests come
  | .stop => ({ a with mOdcpiRequestActive := false }, [request])

def odcpiTimerExpire : GnssAdapter × List OdcpiRequestInfo :=
  if a.mOdcpiRequestActive then
    ({ a with mOdcpiTimer := a.mOdcpiTimer.restart }, [a.mOdcpiRequest])
  else ({ a with mOdcpiTimer := a.mOdcpiTimer.stop }, [])

def proc : LocMsg → GnssAdapter × List OdcpiRequestInfo
  | .requestOdcpi request => a.requestOdcpi request
  | .odcpiTimerExpire => a.odcpiTimerExpire
  | .restartSessions => ({ a with mOdcpiRequestActive := false }, [])

end GnssAdapter

/-! ## The adapter with its messages and its timer -/

structure OdcpiSystem where
  adapter : GnssAdapter
  queue : List LocMsg
  /-- How many expiries have stopped the timer and not yet sent their message. -/
  expired : ℕ
  deriving DecidableEq, Repr

inductive Event
  | requestOdcpiEvent (request : OdcpiRequestInfo)
  /-- The modem has restarted. -/
  | handleEngineUpEvent
  /-- The time is over, and `LocTimerDelegate::expire` stops the timer. -/
  | expire
  | timeOutCallback
  /-- The message task processes the next message. -/
  | proc
  deriving DecidableEq, Repr

/-- A message that was processed, and what was passed to the framework. -/
structure Handled where
  msg : LocMsg
  passed : List OdcpiRequestInfo
  deriving DecidableEq, Repr

namespace OdcpiSystem

variable (s : OdcpiSystem)

def step : Event → Option (OdcpiSystem × List Handled)
  | .requestOdcpiEvent request =>
    some ({ s with queue := s.queue ++ [.requestOdcpi request] }, [])
  | .handleEngineUpEvent => some ({ s with queue := s.queue ++ [.restartSessions] }, [])
  | .expire =>
    if s.adapter.mOdcpiTimer.mTimer then
      some ({ s with
        adapter := { s.adapter with
          mOdcpiTimer := { s.adapter.mOdcpiTimer with mTimer := false } }
        expired := s.expired + 1 }, [])
    else none
  | .timeOutCallback =>
    match s.expired with
    | 0 => none
    | n + 1 => some ({ s with queue := s.queue ++ [.odcpiTimerExpire], expired := n }, [])
  | .proc =>
    match s.queue with
    | [] => none
    | msg :: queue =>
      some ({ s with adapter := (s.adapter.proc msg).1, queue := queue },
        [⟨msg, (s.adapter.proc msg).2⟩])

def init : OdcpiSystem := ⟨⟨false, ⟨false, false⟩, ⟨.start, 0, false⟩⟩, [], 0⟩

end OdcpiSystem

/-! ## What has been handled -/

namespace Handled

/-- The request that is active after a message, or that none is. -/
def activeOf (h : Handled) : Option (Option OdcpiRequestInfo) :=
  match h.msg with
  | .requestOdcpi request =>
    some (match request.type with
      | .start => some request
      | .stop => none)
  | .restartSessions => some none
  | .odcpiTimerExpire => none

def startOf (h : Handled) : Option OdcpiRequestInfo :=
  match h.msg with
  | .requestOdcpi request =>
    match request.type with
    | .start => some request
    | .stop => none
  | .restartSessions | .odcpiTimerExpire => none

/-- A START was passed, or else the timer has expired. -/
def restedOf (h : Handled) : Option Bool :=
  if h.passed.any (·.type = .start) then some false
  else if h.msg = .odcpiTimerExpire then some true else none

end Handled

/-- The latest START, if it has not been ended by a STOP or a restart of the modem. -/
def activeRequest (log : List Handled) : Option OdcpiRequestInfo :=
  (latest Handled.activeOf log).join

def lastStart (log : List Handled) : Option OdcpiRequestInfo := latest Handled.startOf log

/-- No START has been passed yet, or the timer has expired since the last one was passed. -/
def Rested (log : List Handled) : Prop := latest Handled.restedOf log ≠ some false

instance (log : List Handled) : Decidable (Rested log) := inferInstanceAs (Decidable (_ ≠ _))

def IsEmergency (request : Option OdcpiRequestInfo) : Prop :=
  request.any OdcpiRequestInfo.isEmergencyMode = true

instance (request : Option OdcpiRequestInfo) : Decidable (IsEmergency request) :=
  inferInstanceAs (Decidable (_ = _))

/-- What is passed to the framework when a message is handled. -/
def Lawful (log : List Handled) (h : Handled) : Prop :=
  match h.msg with
  | .odcpiTimerExpire => h.passed = (activeRequest log).toList
  | .restartSessions => h.passed = []
  | .requestOdcpi request =>
    match request.type with
    | .stop => h.passed = [request]
    | .start => (h.passed = [] ∨ h.passed = [request]) ∧
      (request.isEmergencyMode = false → h.passed = [request] → Rested log) ∧
      (request.isEmergencyMode = true → ¬IsEmergency (activeRequest log) →
        Rested log ∨ ¬IsEmergency (lastStart log) → h.passed = [request])

/-! ## What a message keeps -/

section Log

variable {log : List Handled} {h : Handled}

theorem activeRequest_concat (log : List Handled) (h : Handled) :
    activeRequest (log ++ [h]) = (h.activeOf.or (latest Handled.activeOf log)).join := by
  rw [activeRequest, latest_concat]

theorem lastStart_concat (log : List Handled) (h : Handled) :
    lastStart (log ++ [h]) = h.startOf.or (lastStart log) := by
  rw [lastStart, latest_concat, lastStart]

theorem rested_concat (log : List Handled) (h : Handled) :
    Rested (log ++ [h]) ↔ h.restedOf ≠ some false ∧ (h.restedOf = none → Rested log) := by
  rw [Rested, latest_concat]
  cases h.restedOf with
  | none => simp [Rested]
  | some b => simp

/-- The adapter and what it has handled. -/
structure Agrees (log : List Handled) (a : GnssAdapter) : Prop where
  active : a.mOdcpiRequestActive = (activeRequest log).isSome
  request : ∀ r, activeRequest log = some r → a.mOdcpiRequest = r ∧ r.type = .start
  emergency : a.mOdcpiRequest.isEmergencyMode = true ↔ IsEmergency (lastStart log)
  timer : a.mOdcpiTimer.mActive = true ↔ ¬Rested log
  activeTimer : a.mOdcpiRequestActive = true → a.mOdcpiTimer.mActive = true

end Log

namespace Agrees

variable {log : List Handled} {a : GnssAdapter}

/-- A START that is passed leaves the request active and the timer running. -/
theorem pass (request : OdcpiRequestInfo) (htype : request.type = .start) {t : OdcpiTimer}
    (ht : t.mActive = true) :
    Agrees (log ++ [⟨.requestOdcpi request, [request]⟩]) ⟨true, t, request⟩ := by
  refine ⟨?_, fun r hr ↦ ?_, ?_, ?_, fun _ ↦ ht⟩
  · simp [activeRequest_concat, Handled.activeOf, htype]
  · simp only [activeRequest_concat, Handled.activeOf, htype, Option.some_or, Option.join_some,
      Option.some.injEq] at hr
    exact ⟨hr, hr ▸ htype⟩
  · simp [lastStart_concat, Handled.startOf, htype, IsEmergency]
  · refine iff_of_true ht ?_
    rw [rested_concat]
    simp [Handled.restedOf, htype]

/-- A START that is not passed is left to the timer. -/
theorem leave (h : Agrees log a) (request : OdcpiRequestInfo) (htype : request.type = .start)
    (htimer : a.mOdcpiTimer.mActive = true) :
    Agrees (log ++ [⟨.requestOdcpi request, []⟩]) ⟨true, a.mOdcpiTimer, request⟩ := by
  refine ⟨?_, fun r hr ↦ ?_, ?_, ?_, fun _ ↦ htimer⟩
  · simp [activeRequest_concat, Handled.activeOf, htype]
  · simp only [activeRequest_concat, Handled.activeOf, htype, Option.some_or, Option.join_some,
      Option.some.injEq] at hr
    exact ⟨hr, hr ▸ htype⟩
  · simp [lastStart_concat, Handled.startOf, htype, IsEmergency]
  · rw [rested_concat]
    simpa [Handled.restedOf] using h.timer

theorem requestOdcpi_start (h : Agrees log a) (request : OdcpiRequestInfo)
    (htype : request.type = .start) :
    Lawful log ⟨.requestOdcpi request, (a.requestOdcpi request).2⟩ ∧
      Agrees (log ++ [⟨.requestOdcpi request, (a.requestOdcpi request).2⟩])
        (a.requestOdcpi request).1 := by
  have hlaw : ∀ passed, Lawful log ⟨.requestOdcpi request, passed⟩ ↔
      (passed = [] ∨ passed = [request]) ∧
      (request.isEmergencyMode = false → passed = [request] → Rested log) ∧
      (request.isEmergencyMode = true → ¬IsEmergency (activeRequest log) →
        Rested log ∨ ¬IsEmergency (lastStart log) → passed = [request]) := by
    intro passed
    rw [Lawful]
    simp only [htype]
  have hidle : a.mOdcpiTimer.mActive = false → Rested log := fun hnot ↦ by
    by_contra hrested
    rw [h.timer.mpr hrested] at hnot
    cases hnot
  rw [GnssAdapter.requestOdcpi]
  simp only [htype]
  split
  · next hfree =>
    simp only [Bool.and_eq_true, Bool.not_eq_true'] at hfree
    exact ⟨(hlaw _).mpr ⟨Or.inr rfl, fun _ _ ↦ hidle hfree.2, fun _ _ _ ↦ rfl⟩,
      pass request htype rfl⟩
  next hbusy =>
  -- in all other cases the timer runs
  have htimer : a.mOdcpiTimer.mActive = true := by
    by_contra hnot
    have hactive : a.mOdcpiRequestActive ≠ true := fun hactive ↦ hnot (h.activeTimer hactive)
    simp [hnot, hactive] at hbusy
  have hrested : ¬Rested log := h.timer.mp htimer
  split
  · next hreplaces =>
    simp only [Bool.and_eq_true, Bool.not_eq_true'] at hreplaces
    refine ⟨(hlaw _).mpr ⟨Or.inr rfl, fun hnot ↦ ?_, fun _ _ _ ↦ rfl⟩, pass request htype ?_⟩
    · rw [hreplaces.2] at hnot
      cases hnot
    · rfl
  next hkeeps =>
  have hleaves : Lawful log ⟨.requestOdcpi request, []⟩ := by
    refine (hlaw _).mpr ⟨Or.inl rfl, fun _ hpassed ↦ (by cases hpassed), fun hemergency _ hlast ↦ ?_⟩
    rcases hlast with hlast | hlast
    · exact absurd hlast hrested
    · have hnot : a.mOdcpiRequest.isEmergencyMode ≠ true := fun he ↦ hlast (h.emergency.mp he)
      simp [hemergency, hnot] at hkeeps
  split
  · exact ⟨hleaves, h.leave request htype htimer⟩
  · next hactive =>
    have hstays : a.mOdcpiRequestActive = true := by
      by_contra hnot
      simp [hnot, htimer] at hactive
    rw [hstays]
    exact ⟨hleaves, h.leave request htype htimer⟩

/-- A STOP or a restart, after which no request is active. -/
theorem clear (h : Agrees log a) {handled : Handled} (hactive : handled.activeOf = some none)
    (hstart : handled.startOf = none) (hrested : handled.restedOf = none) :
    Agrees (log ++ [handled]) { a with mOdcpiRequestActive := false } := by
  have hnone : activeRequest (log ++ [handled]) = none := by
    rw [activeRequest_concat, hactive]
    rfl
  refine ⟨by rw [hnone]; rfl, fun r hr ↦ ?_, ?_, ?_, fun hfalse ↦ by cases hfalse⟩
  · rw [hnone] at hr
    cases hr
  · rw [lastStart_concat, hstart, Option.none_or]
    exact h.emergency
  · rw [rested_concat, hrested]
    simpa using h.timer

theorem odcpiTimerExpire (h : Agrees log a) :
    Lawful log ⟨.odcpiTimerExpire, a.odcpiTimerExpire.2⟩ ∧
      Agrees (log ++ [⟨.odcpiTimerExpire, a.odcpiTimerExpire.2⟩]) a.odcpiTimerExpire.1 := by
  have hactive : ∀ passed, activeRequest (log ++ [⟨.odcpiTimerExpire, passed⟩]) =
      activeRequest log := fun passed ↦ by
    rw [activeRequest_concat, activeRequest]
    rfl
  have hlast : ∀ passed, lastStart (log ++ [⟨.odcpiTimerExpire, passed⟩]) = lastStart log :=
    fun passed ↦ by
      rw [lastStart_concat]
      rfl
  rw [GnssAdapter.odcpiTimerExpire]
  split
  · next hrequest =>
    obtain ⟨r, hr⟩ := Option.isSome_iff_exists.mp (h.active.symm.trans hrequest)
    obtain ⟨heq, htype⟩ := h.request r hr
    refine ⟨?_, ?_, ?_, ?_, ?_, fun _ ↦ rfl⟩
    · rw [Lawful, hr, heq]
      rfl
    · rw [hactive]
      exact h.active
    · rw [hactive]
      exact h.request
    · rw [hlast]
      exact h.emergency
    · refine iff_of_true rfl ?_
      rw [rested_concat]
      simp [Handled.restedOf, heq, htype]
  · next hrequest =>
    have hnone : activeRequest log = none := by
      rw [← Option.not_isSome_iff_eq_none, ← h.active]
      exact hrequest
    refine ⟨?_, ?_, ?_, ?_, ?_, fun hfalse ↦ absurd hfalse hrequest⟩
    · rw [Lawful, hnone]
      rfl
    · rw [hactive]
      exact h.active
    · rw [hactive]
      exact h.request
    · rw [hlast]
      exact h.emergency
    · refine iff_of_false Bool.false_ne_true (not_not.mpr ?_)
      rw [rested_concat]
      simp [Handled.restedOf]

/-- A message is handled lawfully, and the adapter agrees with what it has handled. -/
theorem proc (h : Agrees log a) (msg : LocMsg) :
    Lawful log ⟨msg, (a.proc msg).2⟩ ∧ Agrees (log ++ [⟨msg, (a.proc msg).2⟩]) (a.proc msg).1 := by
  cases msg with
  | requestOdcpi request =>
    cases htype : request.type with
    | start => exact h.requestOdcpi_start request htype
    | stop =>
      have hproc : a.proc (.requestOdcpi request) =
          ({ a with mOdcpiRequestActive := false }, [request]) := by
        rw [GnssAdapter.proc, GnssAdapter.requestOdcpi]
        simp only [htype]
      rw [hproc]
      refine ⟨?_, h.clear ?_ ?_ ?_⟩
      · rw [Lawful]
        simp only [htype]
      · simp only [Handled.activeOf, htype]
      · simp only [Handled.startOf, htype]
      · simp [Handled.restedOf, htype]
  | odcpiTimerExpire => exact h.odcpiTimerExpire
  | restartSessions =>
    refine ⟨?_, h.clear ?_ ?_ ?_⟩
    · rw [Lawful]
      rfl
    · rfl
    · rfl
    · simp [Handled.restedOf, GnssAdapter.proc]

end Agrees

/-- The timer that runs after a message was started by it, or ran before. -/
theorem mTimer_proc (a : GnssAdapter) (msg : LocMsg)
    (h : (a.proc msg).1.mOdcpiTimer.mActive = true) :
    (a.proc msg).1.mOdcpiTimer.mTimer = true ∨
      (a.proc msg).1.mOdcpiTimer = a.mOdcpiTimer ∧ msg ≠ .odcpiTimerExpire := by
  cases msg with
  | requestOdcpi request =>
    rw [GnssAdapter.proc, GnssAdapter.requestOdcpi]
    split
    · dsimp only
      repeat' split
      all_goals first | exact Or.inl rfl | exact Or.inr ⟨rfl, LocMsg.noConfusion⟩
    · exact Or.inr ⟨rfl, LocMsg.noConfusion⟩
  | odcpiTimerExpire =>
    rw [GnssAdapter.proc, GnssAdapter.odcpiTimerExpire] at h ⊢
    split at h
    · next hactive =>
      rw [if_pos hactive]
      exact Or.inl rfl
    · cases h
  | restartSessions => exact Or.inr ⟨rfl, LocMsg.noConfusion⟩

/-! ## Runs -/

/-- What every step of a run keeps. -/
structure Inv (hist : List (Item Event Handled)) (s : OdcpiSystem) : Prop where
  agrees : Agrees (outsOf hist) s.adapter
  lawful : Always Lawful (outsOf hist)
  /-- A timer that is active expires, or its message is on its way. -/
  pending : s.adapter.mOdcpiTimer.mActive = true →
    s.adapter.mOdcpiTimer.mTimer = true ∨ 0 < s.expired ∨ .odcpiTimerExpire ∈ s.queue

namespace Inv

variable {hist : List (Item Event Handled)} {s s' : OdcpiSystem} {e : Event}
  {outs : List Handled}

theorem init : Inv [] .init where
  agrees := ⟨rfl, fun _ h ↦ (by cases h), by decide, by decide, fun h ↦ (by cases h)⟩
  lawful := always_nil _
  pending h := by cases h

/-- A step that handles no message. -/
theorem of_same (h : Inv hist s) (ha : Agrees (outsOf hist) s'.adapter)
    (hpending : s'.adapter.mOdcpiTimer.mActive = true →
      s'.adapter.mOdcpiTimer.mTimer = true ∨ 0 < s'.expired ∨ .odcpiTimerExpire ∈ s'.queue) :
    Inv (hist ++ entry e []) s' := by
  refine ⟨?_, ?_, hpending⟩
  · rwa [outsOf_append_entry, List.append_nil]
  · rw [outsOf_append_entry, List.append_nil]
    exact h.lawful

theorem step (h : Inv hist s) (hs : s.step e = some (s', outs)) :
    Inv (hist ++ entry e outs) s' := by
  cases e with
  | requestOdcpiEvent request | handleEngineUpEvent =>
    cases hs
    exact h.of_same h.agrees fun hactive ↦
      (h.pending hactive).imp_right (Or.imp_right (List.mem_append_left _))
  | expire =>
    rw [OdcpiSystem.step] at hs
    split at hs
    · cases hs
      have ha := h.agrees
      exact h.of_same ⟨ha.active, ha.request, ha.emergency, ha.timer, ha.activeTimer⟩ fun _ ↦
        Or.inr (Or.inl (Nat.succ_pos _))
    · cases hs
  | timeOutCallback =>
    rw [OdcpiSystem.step] at hs
    split at hs
    · cases hs
    · cases hs
      exact h.of_same h.agrees fun _ ↦ Or.inr (Or.inr (by simp))
  | proc =>
    rw [OdcpiSystem.step] at hs
    split at hs
    · cases hs
    · next msg queue hqueue =>
      cases hs
      obtain ⟨hlaw, hagrees⟩ := h.agrees.proc msg
      refine ⟨?_, ?_, fun hactive ↦ ?_⟩
      · rw [outsOf_append_entry]
        exact hagrees
      · rw [outsOf_append_entry]
        exact always_concat.mpr ⟨h.lawful, hlaw⟩
      · rcases mTimer_proc s.adapter msg hactive with htimer | ⟨hsame, hne⟩
        · exact Or.inl htimer
        · simp only [hsame] at hactive ⊢
          rcases h.pending hactive with htimer | hexpired | hmem
          · exact Or.inl htimer
          · exact Or.inr (Or.inl hexpired)
          · rw [hqueue] at hmem
            exact Or.inr (Or.inr ((List.mem_cons.mp hmem).resolve_left (Ne.symm hne)))

end Inv

/-- In every run, a request that is active has the timer running, whose expiry is still to come and
passes it again; a START that is no emergency is passed when the timer has expired since the last
one that was; and an emergency START is passed at once when no emergency request is active, unless
the timer still runs after an emergency START. -/
theorem lawful_of_run {hist : List (Item Event Handled)} {s : OdcpiSystem}
    (h : Run OdcpiSystem.step (fun _ _ ↦ True) .init hist s) :
    Always Lawful (outsOf hist) ∧
      s.adapter.mOdcpiRequestActive = (activeRequest (outsOf hist)).isSome ∧
      (s.adapter.mOdcpiRequestActive = true → s.adapter.mOdcpiTimer.mActive = true ∧
        (s.adapter.mOdcpiTimer.mTimer = true ∨ 0 < s.expired ∨ .odcpiTimerExpire ∈ s.queue)) := by
  have hinv : Inv hist s := h.invariant (I := Inv) Inv.init fun h _ hs ↦ h.step hs
  refine ⟨hinv.lawful, hinv.agrees.active, fun hactive ↦ ?_⟩
  have htimer := hinv.agrees.activeTimer hactive
  exact ⟨htimer, hinv.pending htimer⟩

def sampleRequest (type : OdcpiRequestType) (isEmergencyMode : Bool) : OdcpiRequestInfo :=
  ⟨type, 1000, isEmergencyMode⟩

/-- An emergency request replaces another one, which is passed again until the STOP. -/
theorem lawful_of_run_two : ∃ hist s,
    Run OdcpiSystem.step (fun _ _ ↦ True) .init hist s ∧
      (outsOf hist).map Handled.passed = [[sampleRequest .start false],
        [sampleRequest .start true], [sampleRequest .start true], [sampleRequest .start true],
        [sampleRequest .stop true], []] ∧
      Always Lawful (outsOf hist) := by
  obtain ⟨hist, s, hrun, hs⟩ := Run.exists_of_runEvents OdcpiSystem.step (fun _ _ ↦ True) .init
    [.requestOdcpiEvent (sampleRequest .start false), .proc, .expire,
      .requestOdcpiEvent (sampleRequest .start true), .timeOutCallback, .proc, .proc, .expire,
      .timeOutCallback, .proc, .requestOdcpiEvent (sampleRequest .stop true), .proc, .expire,
      .timeOutCallback, .proc]
    (fun hist _ ↦ (outsOf hist).map Handled.passed = [[sampleRequest .start false],
      [sampleRequest .start true], [sampleRequest .start true], [sampleRequest .start true],
      [sampleRequest .stop true], []]) (by decide +kernel)
  exact ⟨hist, s, hrun, hs, (lawful_of_run hrun).1⟩

/-- An emergency START that comes after the STOP of another one is not passed at once. -/
theorem not_passed_at_once : ∃ hist s, Run OdcpiSystem.step (fun _ _ ↦ True) .init hist s ∧
    ∃ log, outsOf hist = log ++ [⟨.requestOdcpi (sampleRequest .start true), []⟩] ∧
      activeRequest log = none := by
  obtain ⟨hist, s, hrun, hs⟩ := Run.exists_of_runEvents OdcpiSystem.step (fun _ _ ↦ True) .init
    [.requestOdcpiEvent (sampleRequest .start true), .proc,
      .requestOdcpiEvent (sampleRequest .stop true), .proc,
      .requestOdcpiEvent (sampleRequest .start true), .proc]
    (fun hist _ ↦ outsOf hist =
      [⟨.requestOdcpi (sampleRequest .start true), [sampleRequest .start true]⟩,
        ⟨.requestOdcpi (sampleRequest .stop true), [sampleRequest .stop true]⟩] ++
      [⟨.requestOdcpi (sampleRequest .start true), []⟩]) (by decide +kernel)
  exact ⟨hist, s, hrun, _, hs, rfl⟩

end MataDevice.Odcpi
