import MataDevice.ClientApi.System

/-!
# The responses to the starts of a position session

The program passes a response callback to each call that starts a position session. The client keeps
one of them, that of the call whose callback functions it installed last, and one flag that says that
it has still to be invoked. The flag is set together with the mask of the callbacks, one message
after the functions were installed and one before the session is started. The response is the first
one of the daemon that is not about a stop, or it is made up by the client when the options of the
session do not change.

The daemon answers each tracking message once, at any time and in any order. The program is looked at
as far as it starts and stops the position session; the client is a registered one.
-/

namespace MataDevice.ClientApi

open List
open MataDevice.HalDaemon (ELocMsgID LocationOptions)
open MataDevice.Tracking (LocationError)
open Option (some_inj none_or)

inductive LocationResponse
  | success
  | unknownFailure
  | notSupported
  | paramInvalid
  | timeout
  | requestAlreadyInProgress
  | systemNotReady
  deriving DecidableEq, Repr

def parseLocationError : LocationError → LocationResponse
  | .success => .success
  | .notSupported => .notSupported
  | .timeout => .timeout
  | _ => .unknownFailure

/-! ## The messages and the calls -/

/-- A message of the task, with what concerns the response callbacks. -/
inductive TaskMsg
  /-- The functions come with the response callback of the call, if it is not null. -/
  | updateCallbackFunctions (locationCb : Bool) (responsecb : Option ℕ)
  | other (msg : LocMsg)
  /-- A generic response of the daemon has been received. -/
  | response (msgId : ELocMsgID) (err : LocationError)
  deriving DecidableEq

def TaskMsg.ofLocMsg (responsecb : Option ℕ) : LocMsg → TaskMsg
  | .updateCallbackFunctions locationCb => .updateCallbackFunctions locationCb responsecb
  | msg => .other msg

def TaskMsg.isResponse : TaskMsg → Bool
  | .response _ _ => true
  | _ => false

/-- The overloads of `startPositionSession`. -/
inductive StartCall
  | simple (intervalInMs distanceInMeters : UInt32) (locationCallback : Bool)
  | gnss (intervalInMs : UInt32) (gnssReportCallbacks : ReportCbs)
  | engine (intervalInMs locEngReqMask : UInt32) (engReportCallbacks : ReportCbs)
  deriving DecidableEq, Repr

namespace StartCall

/-- What the call returns. -/
def returns : StartCall → Bool
  | simple _ _ locationCallback => locationCallback
  | gnss _ _ | engine _ _ _ => true

def call : StartCall → Call
  | simple intervalInMs distanceInMeters _ => .startPositionSession intervalInMs distanceInMeters
  | gnss intervalInMs gnssReportCallbacks =>
    .startGnssPositionSession intervalInMs gnssReportCallbacks
  | engine intervalInMs locEngReqMask engReportCallbacks =>
    .startEnginePositionSession intervalInMs locEngReqMask engReportCallbacks

end StartCall

/-- The id of a message to the daemon that is about the tracking session. -/
def ToDaemon.trackingId : ToDaemon → Option ELocMsgID
  | .request (.startTracking _) => some .startTracking
  | .request .stopTracking => some .stopTracking
  | .request (.updateTrackingOptions _) => some .updateTrackingOptions
  | _ => none

/-! ## The system -/

/-- The client with its task, and the tracking messages that the daemon has not answered yet. -/
structure StartSystem where
  client : LocationClientApiImpl
  /-- the response callback, by the number of its call -/
  mResponseCb : Option ℕ
  mPositionSessionResponseCbPending : Bool
  /-- what the call that the program is in has still to post -/
  posting : List TaskMsg
  msgs : List TaskMsg
  requests : List ELocMsgID
  /-- the number of the calls that returned true -/
  starts : ℕ
  deriving DecidableEq

inductive StartEvent
  /-- with a response callback or with a null one -/
  | startPositionSession (call : StartCall) (responseCallback : Bool)
  | stopPositionSession
  /-- The call posts its next message. -/
  | post
  /-- The task takes its next message. -/
  | proc
  /-- The daemon answers the message at `i` of those that wait. -/
  | answer (i : ℕ) (err : LocationError)
  deriving DecidableEq, Repr

inductive StartOutput
  /-- A call that starts a session returns, with its number if it returns true. -/
  | returned (number : Option ℕ) (responseCallback : Bool)
  /-- The callback of the call with the number is invoked. -/
  | responseCb (number : ℕ) (response : LocationResponse)
  deriving DecidableEq, Repr

namespace StartSystem

def registered : StartSystem where
  client := { LocationClientApiImpl.new with mHalRegistered := true }
  mResponseCb := none
  mPositionSessionResponseCbPending := false
  posting := []
  msgs := []
  requests := []
  starts := 0

variable (s : StartSystem)

def invokePositionSessionResponseCb (response : LocationResponse) :
    StartSystem × List StartOutput :=
  if s.mPositionSessionResponseCbPending then
    ({ s with mPositionSessionResponseCbPending := false },
      s.mResponseCb.toList.map fun number ↦ .responseCb number response)
  else (s, [])

/-- A handler of the client, apart from the response callbacks. -/
def handle (msg : LocMsg) : StartSystem :=
  { s with
    client := (s.client.proc msg).1
    requests := s.requests ++ (s.client.proc msg).2.1.filterMap ToDaemon.trackingId
    msgs := s.msgs ++ (s.client.proc msg).2.2.map .other }

/-- The session goes on with the options it has. -/
def Unchanged (option : LocationOptions) : Prop :=
  s.client.mHalRegistered = true ∧ s.client.mSessionId = true ∧
    s.client.isOptionUpdated option = false

instance (option : LocationOptions) : Decidable (s.Unchanged option) :=
  inferInstanceAs (Decidable (_ ∧ _))

def procMsg : TaskMsg → StartSystem × List StartOutput
  | .updateCallbackFunctions locationCb responsecb =>
    ({ s.handle (.updateCallbackFunctions locationCb) with mResponseCb := responsecb }, [])
  | .other (.updateCallbacks callbacks) =>
    ({ s.handle (.updateCallbacks callbacks) with mPositionSessionResponseCbPending := true }, [])
  | .other (.startTracking option) =>
    if s.Unchanged option then
      (s.handle (.startTracking option)).invokePositionSessionResponseCb .success
    else (s.handle (.startTracking option), [])
  | .other msg => (s.handle msg, [])
  | .response msgId err =>
    if msgId ≠ .stopTracking then s.invokePositionSessionResponseCb (parseLocationError err)
    else (s, [])

/-- The program makes one call after the other. -/
def step : StartEvent → Option (StartSystem × List StartOutput)
  | .startPositionSession call responseCallback =>
    if s.posting ≠ [] then none
    else if call.returns then
      some ({ s with
        posting := call.call.msgs.map
          (TaskMsg.ofLocMsg (if responseCallback then some s.starts else none))
        starts := s.starts + 1 }, [.returned (some s.starts) responseCallback])
    else some (s, [.returned none responseCallback])
  | .stopPositionSession =>
    if s.posting ≠ [] then none
    else some ({ s with
      posting := Call.stopPositionSession.msgs.map (TaskMsg.ofLocMsg none) }, [])
  | .post =>
    match s.posting with
    | [] => none
    | msg :: posting => some ({ s with posting := posting, msgs := s.msgs ++ [msg] }, [])
  | .proc =>
    match s.msgs with
    | [] => none
    | msg :: msgs => some ({ s with msgs := msgs }.procMsg msg)
  | .answer i err =>
    match s.requests[i]? with
    | none => none
    | some msgId =>
      some ({ s with
        requests := s.requests.eraseIdx i
        msgs := s.msgs ++ [.response msgId err] }, [])

/-- All messages have been processed, and all tracking messages answered. -/
def Quiescent : Prop := s.posting = [] ∧ s.msgs = [] ∧ s.requests = []

instance : Decidable s.Quiescent := inferInstanceAs (Decidable (_ ∧ _))

end StartSystem

/-! ## What is to be answered -/

variable {hist : List (Item StartEvent StartOutput)}

def isResponseTo (k : ℕ) : Item StartEvent StartOutput → Bool
  | .out (.responseCb number _) => number = k
  | _ => false

/-- How often the callback of a call was invoked. -/
def responsesTo (k : ℕ) (hist : List (Item StartEvent StartOutput)) : ℕ :=
  hist.countP (isResponseTo k)

/-- The response callback of a call that returned true. -/
def startOf : Item StartEvent StartOutput → Option (Option ℕ)
  | .out (.returned (some number) responseCallback) =>
    some (if responseCallback then some number else none)
  | _ => none

/-- A later start comes before a response. -/
def Superseded (k : ℕ) (post : List (Item StartEvent StartOutput)) : Prop :=
  ∃ mid x rest, post = mid ++ x :: rest ∧ (startOf x).isSome = true ∧ responsesTo k mid = 0

/-- The callback of each start that is not superseded was invoked once. -/
def Answered (hist : List (Item StartEvent StartOutput)) : Prop :=
  ∀ pre k post, hist = pre ++ .out (.returned (some k) true) :: post → ¬Superseded k post →
    responsesTo k hist = 1

theorem responsesTo_append (k : ℕ) (l l' : List (Item StartEvent StartOutput)) :
    responsesTo k (l ++ l') = responsesTo k l + responsesTo k l' := countP_append ..

@[simp] theorem responsesTo_nil (k : ℕ) : responsesTo k [] = 0 := rfl

namespace TaskMsg

/-- A response that is not about a stop. -/
def answers : TaskMsg → Bool
  | .response msgId _ => msgId ≠ .stopTracking
  | _ => false

def responsecb : TaskMsg → Option ℕ
  | .updateCallbackFunctions _ responsecb => responsecb
  | _ => none

end TaskMsg

namespace StartSystem

variable (s : StartSystem)

/-- What the calls have posted or have still to post. -/
def callMsgs : List TaskMsg := (s.msgs ++ s.posting).filter (!·.isResponse)

/-- The functions of a call are installed, and the flag is not yet set for it. -/
def Installing : Bool :=
  match s.callMsgs.head? with
  | some (.other (.updateCallbacks _)) => true
  | _ => false

/-- The daemon does not hear of the start, or hears of a stop. -/
def Silent (option : LocationOptions) : Bool :=
  isPassive option && (!s.client.mSessionId || !isPassive s.client.mLocationOptions)

def ResponseToCome : Prop :=
  (∃ msgId ∈ s.requests, msgId ≠ .stopTracking) ∨ ∃ msg ∈ s.msgs, msg.answers = true

instance : Decidable s.ResponseToCome := inferInstanceAs (Decidable (_ ∨ _))

/-- A start that the daemon does not answer is not awaited, unless another response is to come, and
no response falls between the callback functions of a call and its flag. -/
def respondsTo : TaskMsg → Bool
  | .other (.startTracking option) =>
    !(s.Silent option && s.mPositionSessionResponseCbPending) || s.ResponseToCome
  | .response msgId _ =>
    msgId = .stopTracking || !s.mPositionSessionResponseCbPending || !s.Installing
  | _ => true

/-- What the task processes does not go without its response. -/
def Responsive : StartEvent → Prop
  | .proc => ∀ msg ∈ s.msgs.head?, s.respondsTo msg = true
  | _ => True

instance : ∀ e, Decidable (s.Responsive e)
  | .proc => inferInstanceAs (Decidable (∀ msg ∈ s.msgs.head?, _))
  | .startPositionSession _ _ | .stopPositionSession | .post | .answer _ _ =>
    inferInstanceAs (Decidable True)

end StartSystem

/-! ## The order of the messages -/

/-- How much of a start has been processed. -/
inductive Phase
  | idle
  /-- the callback functions -/
  | installed
  /-- also the mask, and the flag was set -/
  | armed

def Phase.next : Phase → TaskMsg → Option Phase
  | .idle, .updateCallbackFunctions _ _ => some .installed
  | .idle, .other .stopTracking => some .idle
  | .installed, .other (.updateCallbacks _) => some .armed
  | .armed, .other (.startTracking _) => some .idle
  | _, _ => none

/-- The messages finish what was begun, and are those of whole calls after that. -/
def Phase.Leads : Phase → List TaskMsg → Prop
  | p, [] => p = .idle
  | p, msg :: q => ∃ p', p.next msg = some p' ∧ p'.Leads q

theorem Phase.Leads.append {p : Phase} {q q' : List TaskMsg} (h : p.Leads q)
    (h' : Phase.idle.Leads q') : p.Leads (q ++ q') := by
  induction q generalizing p with
  | nil =>
    obtain rfl : p = .idle := h
    exact h'
  | cons msg q ih =>
    obtain ⟨p', hnext, hleads⟩ := h
    exact ⟨p', hnext, ih hleads⟩

theorem StartCall.leads (call : StartCall) (responsecb : Option ℕ) :
    Phase.idle.Leads (call.call.msgs.map (TaskMsg.ofLocMsg responsecb)) := by
  cases call <;> exact ⟨_, rfl, _, rfl, _, rfl, rfl⟩

theorem leads_stop : Phase.idle.Leads (Call.stopPositionSession.msgs.map (TaskMsg.ofLocMsg none)) :=
  ⟨_, rfl, rfl⟩

/-- The callback that is in place when the messages have been processed. -/
def lastCallback (mResponseCb : Option ℕ) (q : List TaskMsg) : Option ℕ :=
  q.foldl (fun cb msg ↦
    match msg with
    | .updateCallbackFunctions _ responsecb => responsecb
    | _ => cb) mResponseCb

namespace StartSystem

/-! ## The invariant -/

/-- The callbacks in the order in which they are in place. -/
def callbacks (s : StartSystem) : List ℕ :=
  s.mResponseCb.toList ++ s.callMsgs.filterMap TaskMsg.responsecb

/-- The state and the history, when a start has got as far as the phase says. -/
structure Counts (p : Phase) (hist : List (Item StartEvent StartOutput)) (s : StartSystem) : Prop
    where
  registered : s.client.mHalRegistered = true
  leads : p.Leads s.callMsgs
  sorted : s.callbacks.Pairwise (· < ·)
  bound : ∀ k ∈ s.callbacks, k < s.starts
  once : ∀ k, responsesTo k hist ≤ 1
  fresh : ∀ k, k ∈ s.callMsgs.filterMap TaskMsg.responsecb ∨ s.starts ≤ k →
    responsesTo k hist = 0
  unanswered : ∀ k, s.mResponseCb = some k →
    p = .installed ∨ s.mPositionSessionResponseCbPending = true → responsesTo k hist = 0
  answered : ∀ k, s.mResponseCb = some k → p ≠ .installed →
    s.mPositionSessionResponseCbPending = false → responsesTo k hist = 1
  last : (latest startOf hist).join = lastCallback s.mResponseCb s.callMsgs

structure InStep (p : Phase) (hist : List (Item StartEvent StartOutput)) (s : StartSystem) : Prop
    extends Counts p hist s where
  toCome : p = .idle → s.mPositionSessionResponseCbPending = true → s.ResponseToCome

variable {s s' : StartSystem} {p : Phase} {e : StartEvent} {outs : List StartOutput}

theorem inStep_registered : registered.InStep .idle [] where
  registered := rfl
  leads := rfl
  sorted := .nil
  bound := fun k hk ↦ by cases hk
  once := fun k ↦ Nat.zero_le 1
  fresh := fun k _ ↦ rfl
  unanswered := fun k h ↦ by cases h
  answered := fun k h ↦ by cases h
  toCome := fun _ h ↦ by cases h
  last := rfl

theorem responsesTo_append_entry (k : ℕ) :
    responsesTo k (hist ++ entry e outs) =
      responsesTo k hist + responsesTo k (outs.map Item.out) := by
  rw [append_entry, responsesTo_append, responsesTo_append]
  rfl

theorem latest_startOf_append_entry :
    latest startOf (hist ++ entry e outs) =
      (latest startOf (outs.map Item.out)).or (latest startOf hist) := by
  rw [append_entry, latest_append, latest_concat]
  rfl

/-- A step that neither starts a session nor invokes a callback. -/
theorem Counts.append (h : s.Counts p hist) (hk : ∀ k, responsesTo k (outs.map Item.out) = 0)
    (hstart : latest startOf (outs.map Item.out) = none) : s.Counts p (hist ++ entry e outs) := by
  have hcount : ∀ k, responsesTo k (hist ++ entry e outs) = responsesTo k hist := by
    intro k
    rw [responsesTo_append_entry, hk, Nat.add_zero]
  refine ⟨h.registered, h.leads, h.sorted, h.bound, fun k ↦ ?_, fun k hf ↦ ?_, fun k hc hp ↦ ?_,
    fun k hc hp hpend ↦ ?_, ?_⟩
  · rw [hcount]
    exact h.once k
  · rw [hcount]
    exact h.fresh k hf
  · rw [hcount]
    exact h.unanswered k hc hp
  · rw [hcount]
    exact h.answered k hc hp hpend
  · rw [latest_startOf_append_entry, hstart, none_or]
    exact h.last

theorem InStep.append_nil (h : s.InStep p hist) : s.InStep p (hist ++ entry e []) :=
  ⟨h.toCounts.append (fun _ ↦ rfl) rfl, h.toCome⟩

/-- A change of the queues that the messages of the calls are not part of. -/
theorem Counts.requeue (h : s.Counts p hist) {t : StartSystem} (hclient : t.client = s.client)
    (hcb : t.mResponseCb = s.mResponseCb)
    (hpend : t.mPositionSessionResponseCbPending = s.mPositionSessionResponseCbPending)
    (hstarts : t.starts = s.starts) (hmsgs : t.callMsgs = s.callMsgs) : t.Counts p hist := by
  have hcbs : t.callbacks = s.callbacks := by rw [callbacks, callbacks, hcb, hmsgs]
  refine ⟨hclient ▸ h.registered, hmsgs ▸ h.leads, hcbs ▸ h.sorted, ?_, h.once, ?_, ?_, ?_, ?_⟩
  · rw [hcbs, hstarts]
    exact h.bound
  · rw [hmsgs, hstarts]
    exact h.fresh
  · rw [hcb, hpend]
    exact h.unanswered
  · rw [hcb, hpend]
    exact h.answered
  · rw [hcb, hmsgs]
    exact h.last

/-- The callback that is in place is invoked, if it is awaited. -/
theorem Counts.invoke (h : s.Counts p hist)
    (hp : s.mPositionSessionResponseCbPending = true → p ≠ .installed)
    {response : LocationResponse}
    (hr : s.invokePositionSessionResponseCb response = (s', outs)) :
    s'.InStep p (hist ++ entry e outs) := by
  rw [invokePositionSessionResponseCb] at hr
  split at hr
  · next hpend =>
    obtain ⟨rfl, rfl⟩ := Prod.mk.inj hr
    have hstart : latest startOf ((s.mResponseCb.toList.map fun number ↦
        StartOutput.responseCb number response).map Item.out) = none := by
      cases s.mResponseCb <;> rfl
    have hcount : ∀ k, responsesTo k (hist ++ entry e (s.mResponseCb.toList.map fun number ↦
        StartOutput.responseCb number response)) =
        responsesTo k hist + if s.mResponseCb = some k then 1 else 0 := by
      intro k
      rw [responsesTo_append_entry]
      cases s.mResponseCb with
      | none => rfl
      | some number => simp [responsesTo, isResponseTo, countP_cons]
    refine ⟨⟨h.registered, h.leads, h.sorted, h.bound, fun k ↦ ?_, fun k hf ↦ ?_,
      fun k hc hor ↦ ?_, fun k hc _ _ ↦ ?_, ?_⟩, fun _ hfalse ↦ by cases hfalse⟩
    · rw [hcount]
      split
      · next hcb => rw [h.unanswered k hcb (Or.inr hpend)]
      · exact h.once k
    · have hne : s.mResponseCb ≠ some k := by
        intro hcb
        have hmem : k ∈ s.mResponseCb.toList := by simp [hcb]
        rcases hf with hf | hf
        · exact absurd ((pairwise_append.mp h.sorted).2.2 k hmem k hf) (lt_irrefl k)
        · exact absurd (h.bound k (mem_append_left _ hmem)) (not_lt.mpr hf)
      rw [hcount, if_neg hne]
      exact h.fresh k hf
    · rcases hor with hor | hor
      · exact absurd hor (hp hpend)
      · cases hor
    · rw [hcount, if_pos hc, h.unanswered k hc (Or.inr hpend)]
    · rw [latest_startOf_append_entry, hstart, none_or]
      exact h.last
  · next hpend =>
    obtain ⟨rfl, rfl⟩ := Prod.mk.inj hr
    exact ⟨h.append (fun _ ↦ rfl) rfl, fun _ htrue ↦ absurd htrue hpend⟩

/-! ## The calls -/

theorem filter_ofLocMsg (responsecb : Option ℕ) (msgs : List LocMsg) :
    (msgs.map (TaskMsg.ofLocMsg responsecb)).filter (!·.isResponse) =
      msgs.map (TaskMsg.ofLocMsg responsecb) := by
  refine filter_eq_self.mpr fun msg hmsg ↦ ?_
  obtain ⟨msg, -, rfl⟩ := mem_map.mp hmsg
  cases msg <;> rfl

/-- A call posts its messages after those of the calls before it. -/
theorem callMsgs_call (hposting : s.posting = []) (responsecb : Option ℕ) (msgs : List LocMsg)
    (starts : ℕ) :
    ({ s with posting := msgs.map (TaskMsg.ofLocMsg responsecb), starts := starts } :
      StartSystem).callMsgs = s.callMsgs ++ msgs.map (TaskMsg.ofLocMsg responsecb) := by
  rw [callMsgs, callMsgs, hposting, List.append_nil, filter_append, filter_ofLocMsg]

theorem filterMap_start (call : StartCall) (responsecb : Option ℕ) :
    (call.call.msgs.map (TaskMsg.ofLocMsg responsecb)).filterMap TaskMsg.responsecb =
      responsecb.toList := by
  cases call <;> cases responsecb <;> rfl

theorem lastCallback_append (cb : Option ℕ) (q q' : List TaskMsg) :
    lastCallback cb (q ++ q') = lastCallback (lastCallback cb q) q' := foldl_append ..

theorem InStep.start (h : s.InStep p hist) (hposting : s.posting = []) (call : StartCall)
    (responseCallback : Bool) :
    ({ s with
      posting := call.call.msgs.map
        (TaskMsg.ofLocMsg (if responseCallback then some s.starts else none))
      starts := s.starts + 1 } : StartSystem).InStep p
      (hist ++ entry e [.returned (some s.starts) responseCallback]) := by
  set cb : Option ℕ := if responseCallback then some s.starts else none with hcb
  have hmsgs := callMsgs_call hposting cb call.call.msgs (s.starts + 1)
  have hnumbers : ∀ k ∈ cb.toList, k = s.starts := by
    intro k hk
    cases responseCallback with
    | false => cases hk
    | true => exact mem_singleton.mp hk
  have hcount : ∀ k, responsesTo k (hist ++ entry e [.returned (some s.starts) responseCallback]) =
      responsesTo k hist := by
    intro k
    rw [responsesTo_append_entry]
    rfl
  refine ⟨⟨h.registered, ?_, ?_, ?_, fun k ↦ ?_, fun k hf ↦ ?_, fun k hc hp ↦ ?_,
    fun k hc hp hpend ↦ ?_, ?_⟩, h.toCome⟩
  · rw [hmsgs]
    exact h.leads.append (call.leads cb)
  · rw [callbacks, hmsgs, filterMap_append, filterMap_start, ← append_assoc]
    refine pairwise_append.mpr ⟨h.sorted, ?_, fun k hk k' hk' ↦ ?_⟩
    · cases responseCallback <;> simp [hcb]
    · rw [hnumbers k' hk']
      exact h.bound k hk
  · intro k hk
    rw [callbacks, hmsgs, filterMap_append, filterMap_start, ← append_assoc] at hk
    rcases mem_append.mp hk with hk | hk
    · exact Nat.lt_succ_of_lt (h.bound k hk)
    · rw [hnumbers k hk]
      exact Nat.lt_succ_self _
  · rw [hcount]
    exact h.once k
  · rw [hcount]
    refine h.fresh k ?_
    rw [hmsgs, filterMap_append, filterMap_start, mem_append] at hf
    rcases hf with (hf | hf) | hf
    · exact Or.inl hf
    · exact Or.inr (hnumbers k hf).ge
    · exact Or.inr (Nat.le_of_succ_le hf)
  · rw [hcount]
    exact h.unanswered k hc hp
  · rw [hcount]
    exact h.answered k hc hp hpend
  · rw [latest_startOf_append_entry, hmsgs, lastCallback_append, ← h.last]
    cases call <;> rfl

theorem InStep.stop (h : s.InStep p hist) (hposting : s.posting = []) :
    ({ s with posting := Call.stopPositionSession.msgs.map (TaskMsg.ofLocMsg none) } :
      StartSystem).InStep p hist := by
  have hmsgs := callMsgs_call hposting none Call.stopPositionSession.msgs s.starts
  have hnone : (Call.stopPositionSession.msgs.map (TaskMsg.ofLocMsg none)).filterMap
      TaskMsg.responsecb = [] := rfl
  refine ⟨⟨h.registered, ?_, ?_, ?_, h.once, ?_, h.unanswered, h.answered, ?_⟩, h.toCome⟩
  · rw [hmsgs]
    exact h.leads.append leads_stop
  · rw [callbacks, hmsgs, filterMap_append, hnone, List.append_nil]
    exact h.sorted
  · rw [callbacks, hmsgs, filterMap_append, hnone, List.append_nil]
    exact h.bound
  · rw [hmsgs, filterMap_append, hnone, List.append_nil]
    exact h.fresh
  · rw [hmsgs, lastCallback_append, ← h.last]
    rfl

/-! ## The handlers -/

variable {msg : TaskMsg}

/-- A message of a call that is taken from the queue. -/
theorem callMsgs_of_msgs {msgs : List TaskMsg} (hmsgs : s.msgs = msg :: msgs)
    (hcall : msg.isResponse = false) :
    s.callMsgs = msg :: ({ s with msgs := msgs } : StartSystem).callMsgs := by
  rw [callMsgs, callMsgs, hmsgs, cons_append, filter_cons_of_pos (by simp [hcall])]

/-- What the handlers of a start or stop leave as it was. -/
theorem callMsgs_handle {msg : LocMsg} (hposted : (s.client.proc msg).2.2 = []) :
    (s.handle msg).callMsgs = s.callMsgs := by
  simp [callMsgs, handle, hposted]

theorem ResponseToCome.handle (h : s.ResponseToCome) (msg : LocMsg) :
    (s.handle msg).ResponseToCome := by
  refine h.imp ?_ ?_
  · rintro ⟨msgId, hmem, hne⟩
    exact ⟨msgId, mem_append_left _ hmem, hne⟩
  · rintro ⟨msg', hmem, hans⟩
    exact ⟨msg', mem_append_left _ hmem, hans⟩

/-- A message that is no answer is not what is awaited. -/
theorem ResponseToCome.tail (h : s.ResponseToCome) {msgs : List TaskMsg}
    (hmsgs : s.msgs = msg :: msgs) (hno : msg.answers = false) :
    ({ s with msgs := msgs } : StartSystem).ResponseToCome := by
  refine h.imp_right ?_
  rintro ⟨msg', hmem, hans⟩
  rw [hmsgs] at hmem
  rcases mem_cons.mp hmem with rfl | hmem
  · rw [hno] at hans
    cases hans
  · exact ⟨msg', hmem, hans⟩

/-- What a message of a call can be, from what has been processed before it. -/
theorem next_cases {p' : Phase} (h : p.next msg = some p') :
    (p = .idle ∧ p' = .installed ∧ ∃ locationCb cb, msg = .updateCallbackFunctions locationCb cb) ∨
      (p = .idle ∧ p' = .idle ∧ msg = .other .stopTracking) ∨
      (p = .installed ∧ p' = .armed ∧ ∃ callbacks, msg = .other (.updateCallbacks callbacks)) ∨
      p = .armed ∧ p' = .idle ∧ ∃ option, msg = .other (.startTracking option) := by
  unfold Phase.next at h
  split at h
  · exact Or.inl ⟨rfl, (some_inj.mp h).symm, _, _, rfl⟩
  · exact Or.inr (Or.inl ⟨rfl, (some_inj.mp h).symm, rfl⟩)
  · exact Or.inr (Or.inr (Or.inl ⟨rfl, (some_inj.mp h).symm, _, rfl⟩))
  · exact Or.inr (Or.inr (Or.inr ⟨rfl, (some_inj.mp h).symm, _, rfl⟩))
  · cases h

variable {msgs : List TaskMsg}

theorem InStep.updateCallbackFunctions {locationCb : Bool} {cb : Option ℕ}
    (h : s.InStep .idle hist) (hmsgs : s.msgs = .updateCallbackFunctions locationCb cb :: msgs) :
    ({ ({ s with msgs := msgs } : StartSystem).handle (.updateCallbackFunctions locationCb) with
      mResponseCb := cb } : StartSystem).InStep .installed hist := by
  have hcall := callMsgs_of_msgs hmsgs rfl
  have hafter : ({ ({ s with msgs := msgs } : StartSystem).handle
      (.updateCallbackFunctions locationCb) with mResponseCb := cb } : StartSystem).callMsgs =
        ({ s with msgs := msgs } : StartSystem).callMsgs := callMsgs_handle rfl
  have hcbs : s.callbacks = s.mResponseCb.toList ++
      (cb.toList ++ ({ s with msgs := msgs } : StartSystem).callMsgs.filterMap
        TaskMsg.responsecb) := by
    rw [callbacks, hcall]
    cases cb <;> rfl
  have hsub : ∀ k ∈ cb.toList ++ ({ s with msgs := msgs } : StartSystem).callMsgs.filterMap
      TaskMsg.responsecb, k ∈ s.callMsgs.filterMap TaskMsg.responsecb := by
    rw [hcall]
    cases cb <;> exact fun k hk ↦ hk
  have hsorted := h.sorted
  have hbound := h.bound
  rw [hcbs] at hsorted hbound
  obtain ⟨p', hnext, hleads⟩ := hcall ▸ h.leads
  obtain rfl : Phase.installed = p' := some_inj.mp hnext
  refine ⟨⟨h.registered, hafter ▸ hleads, ?_, ?_, h.once, fun k hf ↦ ?_, fun k hc _ ↦ ?_,
    fun k _ hp ↦ absurd rfl hp, ?_⟩, fun hp ↦ by cases hp⟩
  · rw [callbacks, hafter]
    exact (pairwise_append.mp hsorted).2.1
  · intro k hk
    rw [callbacks, hafter] at hk
    exact hbound k (mem_append_right _ hk)
  · rw [hafter] at hf
    exact h.fresh k (hf.imp_left fun hk ↦ hsub k (mem_append_right _ hk))
  · obtain rfl : cb = some k := hc
    exact h.fresh k (Or.inl (hsub k (by simp)))
  · rw [h.last, hcall, hafter]
    rfl

theorem InStep.updateCallbacks {callbacks : LocationCallbacks} (h : s.InStep .installed hist)
    (hmsgs : s.msgs = .other (.updateCallbacks callbacks) :: msgs) :
    ({ ({ s with msgs := msgs } : StartSystem).handle (.updateCallbacks callbacks) with
      mPositionSessionResponseCbPending := true } : StartSystem).InStep .armed hist := by
  have hcall := callMsgs_of_msgs hmsgs rfl
  have hproc : (s.client.proc (.updateCallbacks callbacks)).1.mHalRegistered =
      s.client.mHalRegistered ∧ (s.client.proc (.updateCallbacks callbacks)).2.2 = [] := by
    rw [LocationClientApiImpl.proc, LocationClientApiImpl.updateCallbacks]
    split <;> exact ⟨rfl, rfl⟩
  have hafter : ({ ({ s with msgs := msgs } : StartSystem).handle (.updateCallbacks callbacks) with
      mPositionSessionResponseCbPending := true } : StartSystem).callMsgs =
        ({ s with msgs := msgs } : StartSystem).callMsgs := callMsgs_handle hproc.2
  have hcbs : ({ ({ s with msgs := msgs } : StartSystem).handle (.updateCallbacks callbacks) with
      mPositionSessionResponseCbPending := true } : StartSystem).callbacks = s.callbacks := by
    rw [StartSystem.callbacks, StartSystem.callbacks, hafter, hcall]
    rfl
  obtain ⟨p', hnext, hleads⟩ := hcall ▸ h.leads
  obtain rfl : Phase.armed = p' := some_inj.mp hnext
  refine ⟨⟨hproc.1.trans h.registered, hafter ▸ hleads, hcbs ▸ h.sorted, ?_, h.once,
    fun k hf ↦ h.fresh k ?_, fun k hc _ ↦ h.unanswered k hc (Or.inl rfl),
    (fun k _ _ hpend ↦ by cases hpend), ?_⟩, fun hp ↦ by cases hp⟩
  · rw [hcbs]
    exact h.bound
  · rw [hcall]
    rwa [hafter] at hf
  · rw [h.last, hcall, hafter]
    rfl

/-- A handler that neither installs functions nor sets the flag. -/
theorem InStep.handle {p' : Phase} {msg : LocMsg} (h : s.InStep p hist)
    (hmsgs : s.msgs = .other msg :: msgs) (hnext : p.next (.other msg) = some p')
    (hp : p ≠ .installed) (hreg : (s.client.proc msg).1.mHalRegistered = s.client.mHalRegistered)
    (hposted : (s.client.proc msg).2.2 = []) :
    (({ s with msgs := msgs } : StartSystem).handle msg).Counts p' hist := by
  have hcall := callMsgs_of_msgs hmsgs rfl
  have hafter : (({ s with msgs := msgs } : StartSystem).handle msg).callMsgs =
      ({ s with msgs := msgs } : StartSystem).callMsgs := callMsgs_handle hposted
  have hcbs : (({ s with msgs := msgs } : StartSystem).handle msg).callbacks = s.callbacks := by
    rw [StartSystem.callbacks, StartSystem.callbacks, hafter, hcall]
    rfl
  have hleads := h.leads
  rw [hcall] at hleads
  obtain ⟨p'', hnext', hleads⟩ := hleads
  obtain rfl := some_inj.mp (hnext.symm.trans hnext')
  have hp' : p' ≠ .installed := by
    rcases next_cases hnext with ⟨-, -, _, _, hmsg⟩ | ⟨-, rfl, -⟩ | ⟨hp', -⟩ | ⟨-, rfl, -⟩
    · cases hmsg
    · simp
    · exact absurd hp' hp
    · simp
  refine ⟨hreg.trans h.registered, hafter ▸ hleads, hcbs ▸ h.sorted, ?_, h.once,
    fun k hf ↦ h.fresh k ?_, fun k hc hor ↦ h.unanswered k hc (Or.inr (hor.resolve_left hp')),
    fun k hc _ hpend ↦ h.answered k hc hp hpend, ?_⟩
  · rw [hcbs]
    exact h.bound
  · rw [hcall]
    rwa [hafter] at hf
  · rw [h.last, hcall, hafter]
    rfl

/-- The daemon hears of a start that it has to answer, or the client answers it by itself. -/
theorem exists_request_of_startTracking (hreg : s.client.mHalRegistered = true)
    {option : LocationOptions} (hchanged : ¬s.Unchanged option)
    (hsilent : s.Silent option = false) :
    ∃ msgId ∈ (s.client.proc (.startTracking option)).2.1.filterMap ToDaemon.trackingId,
      msgId ≠ .stopTracking := by
  rw [LocationClientApiImpl.proc, LocationClientApiImpl.startTracking, if_neg (not_not.mpr hreg)]
  cases hsession : s.client.mSessionId with
  | false =>
    have hactive : isPassive option = false := by simpa [Silent, hsession] using hsilent
    exact ⟨.startTracking, by simp [hactive, ToDaemon.trackingId], by decide⟩
  | true =>
    have hupdated : s.client.isOptionUpdated option = true := by
      simpa [Unchanged, hreg, hsession] using hchanged
    cases hpassive : isPassive option <;> cases hbefore : isPassive s.client.mLocationOptions
    · exact ⟨.updateTrackingOptions, by
        simp [hupdated, LocationClientApiImpl.updateTrackingOptionsSync, hpassive, hbefore,
          ToDaemon.trackingId], by decide⟩
    · exact ⟨.startTracking, by
        simp [hupdated, LocationClientApiImpl.updateTrackingOptionsSync, hpassive, hbefore,
          ToDaemon.trackingId], by decide⟩
    · simp [Silent, hsession, hpassive, hbefore] at hsilent
    · exact ⟨.updateTrackingOptions, by
        simp [hupdated, LocationClientApiImpl.updateTrackingOptionsSync, hpassive, hbefore,
          ToDaemon.trackingId], by decide⟩

theorem InStep.startTracking {option : LocationOptions} (h : s.InStep .armed hist)
    (hmsgs : s.msgs = .other (.startTracking option) :: msgs)
    (hg : s.respondsTo (.other (.startTracking option)) = true)
    (hr : ({ s with msgs := msgs } : StartSystem).procMsg (.other (.startTracking option)) =
      (s', outs)) : s'.InStep .idle (hist ++ entry e outs) := by
  obtain ⟨hreg, hposted⟩ : (s.client.proc (.startTracking option)).1.mHalRegistered =
      s.client.mHalRegistered ∧ (s.client.proc (.startTracking option)).2.2 = [] := by
    rw [LocationClientApiImpl.proc, LocationClientApiImpl.startTracking]
    split
    · exact ⟨rfl, rfl⟩
    · split
      · exact ⟨rfl, rfl⟩
      · split <;> exact ⟨rfl, rfl⟩
  have hcounts := h.handle hmsgs rfl (by simp) hreg hposted
  rw [procMsg] at hr
  split at hr
  · exact hcounts.invoke (by simp) hr
  · next hchanged =>
    obtain ⟨rfl, rfl⟩ := Prod.mk.inj hr
    refine ⟨hcounts.append (fun _ ↦ rfl) rfl, fun _ hpend ↦ ?_⟩
    cases hsilent : s.Silent option with
    | false =>
      obtain ⟨msgId, hmem, hne⟩ :=
        exists_request_of_startTracking (s := { s with msgs := msgs }) h.registered hchanged hsilent
      exact Or.inl ⟨msgId, mem_append_right _ hmem, hne⟩
    | true =>
      have hpend' : s.mPositionSessionResponseCbPending = true := hpend
      have hcome : s.ResponseToCome := by
        simpa [respondsTo, hsilent, hpend'] using hg
      exact (hcome.tail hmsgs rfl).handle _

theorem InStep.stopTracking (h : s.InStep .idle hist)
    (hmsgs : s.msgs = .other .stopTracking :: msgs) :
    (({ s with msgs := msgs } : StartSystem).handle .stopTracking).InStep .idle hist := by
  obtain ⟨hreg, hposted⟩ : (s.client.proc .stopTracking).1.mHalRegistered =
      s.client.mHalRegistered ∧ (s.client.proc .stopTracking).2.2 = [] := by
    rw [LocationClientApiImpl.proc, LocationClientApiImpl.stopTracking]
    split <;> exact ⟨rfl, rfl⟩
  exact ⟨h.handle hmsgs rfl (by simp) hreg hposted,
    fun hp hpend ↦ ((h.toCome hp hpend).tail hmsgs rfl).handle _⟩

/-- A response is processed at any point of a start but after the functions were installed. -/
theorem InStep.response {msgId : ELocMsgID} {err : LocationError} (h : s.InStep p hist)
    (hmsgs : s.msgs = .response msgId err :: msgs)
    (hg : s.respondsTo (.response msgId err) = true)
    (hr : ({ s with msgs := msgs } : StartSystem).procMsg (.response msgId err) = (s', outs)) :
    s'.InStep p (hist ++ entry e outs) := by
  have hcall : ({ s with msgs := msgs } : StartSystem).callMsgs = s.callMsgs := by
    rw [callMsgs, callMsgs, hmsgs]
    rfl
  have hcounts : ({ s with msgs := msgs } : StartSystem).Counts p hist :=
    h.toCounts.requeue rfl rfl rfl rfl hcall
  rw [procMsg] at hr
  split at hr
  · next hne =>
    refine hcounts.invoke (fun hpend hp ↦ ?_) hr
    -- the mask of the callbacks comes next
    obtain ⟨cbs, q, hq⟩ : ∃ cbs q, s.callMsgs = .other (.updateCallbacks cbs) :: q := by
      have hleads := h.leads
      rw [hp] at hleads
      cases hq : s.callMsgs with
      | nil =>
        rw [hq] at hleads
        cases hleads
      | cons msg q =>
        rw [hq] at hleads
        obtain ⟨p', hnext, -⟩ := hleads
        rcases next_cases hnext with ⟨hp, -⟩ | ⟨hp, -⟩ | ⟨-, -, cbs, rfl⟩ | ⟨hp, -⟩
        · cases hp
        · cases hp
        · exact ⟨cbs, q, rfl⟩
        · cases hp
    have hpend' : s.mPositionSessionResponseCbPending = true := hpend
    simp [respondsTo, hne, hpend', Installing, hq] at hg
  · next heq =>
    obtain ⟨rfl, rfl⟩ := Prod.mk.inj hr
    refine ⟨hcounts.append (fun _ ↦ rfl) rfl, fun hp hpend ↦ ?_⟩
    exact (h.toCome hp hpend).tail hmsgs (by simpa [TaskMsg.answers] using heq)

/-! ## The runs -/

theorem InStep.proc (h : s.InStep p hist) (hmsgs : s.msgs = msg :: msgs)
    (hg : s.respondsTo msg = true)
    (hr : ({ s with msgs := msgs } : StartSystem).procMsg msg = (s', outs)) :
    ∃ p', s'.InStep p' (hist ++ entry e outs) := by
  cases hcall : msg.isResponse with
  | true =>
    cases msg with
    | response msgId err => exact ⟨p, h.response hmsgs hg hr⟩
    | updateCallbackFunctions | other => cases hcall
  | false =>
    have hleads := h.leads
    rw [callMsgs_of_msgs hmsgs hcall] at hleads
    obtain ⟨p', hnext, -⟩ := hleads
    rcases next_cases hnext with ⟨rfl, -, locationCb, cb, rfl⟩ | ⟨rfl, -, rfl⟩ |
      ⟨rfl, -, callbacks, rfl⟩ | ⟨rfl, -, option, rfl⟩
    · obtain ⟨rfl, rfl⟩ := Prod.mk.inj hr
      exact ⟨.installed, (h.updateCallbackFunctions hmsgs).append_nil⟩
    · obtain ⟨rfl, rfl⟩ := Prod.mk.inj hr
      exact ⟨.idle, (h.stopTracking hmsgs).append_nil⟩
    · obtain ⟨rfl, rfl⟩ := Prod.mk.inj hr
      exact ⟨.armed, (h.updateCallbacks hmsgs).append_nil⟩
    · exact ⟨.idle, h.startTracking hmsgs hg hr⟩

theorem InStep.step (h : s.InStep p hist) (hg : s.Responsive e)
    (hs : s.step e = some (s', outs)) : ∃ p', s'.InStep p' (hist ++ entry e outs) := by
  cases e with
  | startPositionSession call responseCallback =>
    rw [StartSystem.step] at hs
    split at hs
    · cases hs
    · next hposting =>
      split at hs
      · obtain ⟨rfl, rfl⟩ := some_pair_inj hs
        exact ⟨p, h.start (not_not.mp hposting) call responseCallback⟩
      · obtain ⟨rfl, rfl⟩ := some_pair_inj hs
        exact ⟨p, h.toCounts.append (fun _ ↦ rfl) rfl, h.toCome⟩
  | stopPositionSession =>
    rw [StartSystem.step] at hs
    split at hs
    · cases hs
    · next hposting =>
      obtain ⟨rfl, rfl⟩ := some_pair_inj hs
      exact ⟨p, (h.stop (not_not.mp hposting)).append_nil⟩
  | post =>
    rw [StartSystem.step] at hs
    split at hs
    · cases hs
    · next msg posting hposting =>
      obtain ⟨rfl, rfl⟩ := some_pair_inj hs
      have hcall : ({ s with posting := posting, msgs := s.msgs ++ [msg] } : StartSystem).callMsgs
          = s.callMsgs := by
        rw [callMsgs, callMsgs, hposting, append_assoc, singleton_append]
      refine ⟨p, InStep.append_nil ⟨h.toCounts.requeue rfl rfl rfl rfl hcall, fun hp hpend ↦ ?_⟩⟩
      refine (h.toCome hp hpend).imp_right ?_
      rintro ⟨msg', hmem, hans⟩
      exact ⟨msg', mem_append_left _ hmem, hans⟩
  | proc =>
    rw [StartSystem.step] at hs
    split at hs
    · cases hs
    · next msg msgs hmsgs => exact h.proc hmsgs (hg msg (by simp [hmsgs])) (some_inj.mp hs)
  | answer i err =>
    rw [StartSystem.step] at hs
    split at hs
    · cases hs
    · next msgId hget =>
      obtain ⟨rfl, rfl⟩ := some_pair_inj hs
      have hcall : ({ s with
          requests := s.requests.eraseIdx i
          msgs := s.msgs ++ [.response msgId err] } : StartSystem).callMsgs = s.callMsgs := by
        simp [callMsgs, TaskMsg.isResponse]
      refine ⟨p, InStep.append_nil ⟨h.toCounts.requeue rfl rfl rfl rfl hcall, fun hp hpend ↦ ?_⟩⟩
      rcases h.toCome hp hpend with ⟨msgId', hmem, hne⟩ | ⟨msg', hmem, hans⟩
      · -- the message is the one that is answered, or still waits
        by_cases heq : msgId' = msgId
        · exact Or.inr ⟨.response msgId err, by simp, by simpa [TaskMsg.answers, ← heq] using hne⟩
        · obtain ⟨j, hj⟩ := mem_iff_getElem?.mp hmem
          have hij : j ≠ i := by
            rintro rfl
            exact heq (some_inj.mp (hj.symm.trans hget))
          exact Or.inl ⟨msgId', mem_eraseIdx_iff_getElem?.mpr ⟨j, hij, hj⟩, hne⟩
      · exact Or.inr ⟨msg', mem_append_left _ hmem, hans⟩

/-- When all is processed, the callback of the last start was invoked. -/
theorem InStep.answered_of_quiescent (h : s.InStep p hist) (hquiet : s.Quiescent) :
    Answered hist := by
  obtain ⟨hposting, hmsgs, hrequests⟩ := hquiet
  have hcall : s.callMsgs = [] := by rw [callMsgs, hposting, hmsgs]; rfl
  have hidle : p = .idle := by
    have hleads := h.leads
    rwa [hcall] at hleads
  have hpend : s.mPositionSessionResponseCbPending = false := by
    by_contra htrue
    rcases h.toCome hidle (Bool.eq_true_of_not_eq_false htrue) with ⟨_, hmem, -⟩ | ⟨_, hmem, -⟩
    · rw [hrequests] at hmem
      cases hmem
    · rw [hmsgs] at hmem
      cases hmem
  intro pre k post hhist hnot
  by_cases hlater : ∃ x ∈ post, (startOf x).isSome = true
  · obtain ⟨x, hmem, hx⟩ := hlater
    obtain ⟨mid, rest, rfl⟩ := append_of_mem hmem
    have hmid : responsesTo k mid ≠ 0 := fun hzero ↦ hnot ⟨mid, x, rest, rfl, hx, hzero⟩
    have hle : responsesTo k mid ≤ responsesTo k hist := by
      rw [hhist, ← singleton_append, ← append_assoc, responsesTo_append,
        responsesTo_append, responsesTo_append]
      omega
    have honce := h.once k
    omega
  · have hlast : latest startOf hist = some (some k) := by
      rw [hhist, ← singleton_append, ← append_assoc, latest_append_of_none, latest_concat]
      · rfl
      · intro x hx
        rw [← Option.not_isSome_iff_eq_none]
        exact fun hsome ↦ hlater ⟨x, hx, hsome⟩
    have hcb : s.mResponseCb = some k := by
      have hjoin := h.last
      rw [hlast, hcall] at hjoin
      exact hjoin.symm
    exact h.answered k hcb (by simp [hidle]) hpend

/-- **The responses.** In a run in which every start goes with its response, each start that is not
superseded has its callback invoked once, and no callback is invoked twice. -/
theorem answered_of_run (h : Run step Responsive registered hist s) :
    (∀ k, responsesTo k hist ≤ 1) ∧ (s.Quiescent → Answered hist) := by
  have hinv : ∃ p, s.InStep p hist := by
    refine h.invariant (I := fun hist s ↦ ∃ p, s.InStep p hist) ⟨.idle, inStep_registered⟩ ?_
    rintro hist s e s' outs ⟨p, hI⟩ hg hs
    exact hI.step hg hs
  obtain ⟨p, hp⟩ := hinv
  exact ⟨hp.once, hp.answered_of_quiescent⟩

/-- A session is updated before its start is answered, and goes on unchanged after that. -/
theorem answered_of_run_update : ∃ hist s, Run step Responsive registered hist s ∧ s.Quiescent ∧
    responsesTo 1 hist = 1 ∧ responsesTo 2 hist = 1 ∧
      (∀ k, responsesTo k hist ≤ 1) ∧ Answered hist := by
  obtain ⟨hist, s, hrun, hquiet, hone, htwo⟩ := Run.exists_of_runEvents step Responsive registered
    [.startPositionSession (.simple 1000 0 true) true, .post, .post, .post, .proc, .proc, .proc,
      .startPositionSession (.simple 2000 0 true) true, .post, .post, .post, .proc, .proc, .proc,
      .answer 0 .success, .proc, .answer 0 .success, .proc,
      .startPositionSession (.simple 2000 0 true) true, .post, .post, .post, .proc, .proc, .proc]
    (fun hist s ↦ s.Quiescent ∧ responsesTo 1 hist = 1 ∧ responsesTo 2 hist = 1)
    (by decide +kernel)
  obtain ⟨honce, hanswered⟩ := answered_of_run hrun
  exact ⟨hist, s, hrun, hquiet, hone, htwo, honce, hanswered hquiet⟩

/-- A session that is passive from the start. -/
theorem not_answered_start : ¬∀ hist s, Run step (fun _ _ ↦ True) registered hist s → s.Quiescent →
    Answered hist := by
  intro hall
  obtain ⟨hist, s, hrun, hquiet, htake, hlater, hnone⟩ :=
    Run.exists_of_runEvents step (fun _ _ ↦ True) registered
    [.startPositionSession (.simple 0 0 true) true, .post, .post, .post, .proc, .proc, .proc]
    (fun hist s ↦ s.Quiescent ∧ hist.take 2 =
      [.event (.startPositionSession (.simple 0 0 true) true), .out (.returned (some 0) true)] ∧
      (hist.drop 2).countP (fun x ↦ (startOf x).isSome) = 0 ∧ responsesTo 0 hist = 0)
    (by decide +kernel)
  have hone := hall hist s hrun hquiet [.event (.startPositionSession (.simple 0 0 true) true)] 0
    (hist.drop 2) (by rw [← take_append_drop 2 hist, htake]; rfl) ?_
  · rw [hnone] at hone
    cases hone
  · rintro ⟨mid, x, rest, hpost, hx, -⟩
    rw [countP_eq_zero] at hlater
    exact hlater x (by simp [hpost]) hx

end StartSystem

end MataDevice.ClientApi
