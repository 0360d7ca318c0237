import MataDevice.Client.Tables
import MataDevice.Lib.History
import MataDevice.Tracking.Adapter

/-!
# The configuration requests of the control client

`LocationAPIControlClient` pushes a request for each configuration that it sets or asks for, and the
collective response of the adapter is to pop it and to call `onGnssUpdateConfigCb` or
`onGnssGetConfigCb`. The request is found by the pointer to the array of session ids: the queue
keeps the pointer that the call returned, and the response carries one.

The pointer is put into a queue only if the queue has one already. It never has: the queues start
without, and nothing else sets it. So no response finds its request, whatever the order of the calls
and of the responses is, and the requests stay in their queues.

The array that a call returns is deleted at once, and the adapter answers with an array of its own.
Addresses may be used again.
-/

namespace MataDevice.Client

open MataDevice.Tracking (LocationError)

/-- `CTRL_REQUEST_TYPE` -/
inductive CtrlRequestType
  | deleteAidingData
  | control
  | configUpdate
  | configGet
  deriving DecidableEq, Repr

/-- The calls that are answered by a collective response. -/
inductive ConfigCall
  | update
  | get
  deriving DecidableEq, Repr

/-- The requests of the control client. Those for configurations are numbered, so that the objects
can be told apart. -/
inductive CtrlRequest
  | gnssDeleteAidingData
  | enable
  | disable
  | config (kind : ConfigCall) (call : ℕ)
  deriving DecidableEq, Repr

inductive CtrlOutput
  /-- A call has returned `LOCATION_ERROR_SUCCESS` after it got an array of ids. -/
  | called (kind : ConfigCall) (call : ℕ)
  /-- The adapter sends the collective response for a call. -/
  | responded (kind : ConfigCall) (call : ℕ)
  | popped (request : CtrlRequest)
  | onGnssDeleteAidingDataCb (error : LocationError)
  | onEnableCb (error : LocationError)
  | onDisableCb (error : LocationError)
  /-- `onGnssUpdateConfigCb` or `onGnssGetConfigCb`, with the request that makes the call -/
  | onConfigCb (kind : ConfigCall) (call : ℕ)
  deriving DecidableEq, Repr

namespace CtrlRequest

def onResponse (error : LocationError) : CtrlRequest → List CtrlOutput
  | gnssDeleteAidingData => [.onGnssDeleteAidingDataCb error]
  | enable => [.onEnableCb error]
  | disable => [.onDisableCb error]
  | config .. => []

def onCollectiveResponse : CtrlRequest → List CtrlOutput
  | config kind call => [.onConfigCb kind call]
  | gnssDeleteAidingData | enable | disable => []

/-- Whether the request is one for a configuration. -/
def isConfig : CtrlRequest → Bool
  | config .. => true
  | gnssDeleteAidingData | enable | disable => false

end CtrlRequest

variable {Config : Type}

/-- The client, with the calls that the adapter has not answered yet. -/
structure ControlClient (Config : Type) where
  /-- whether there is a `LocationControlAPI` -/
  mLocationControlAPI : Bool
  mRequestQueues : CtrlRequestType → RequestQueue CtrlRequest
  mEnabled : Bool
  mConfig : Config
  calls : ℕ
  awaiting : List (ConfigCall × ℕ)

/-- What the client is called with, and what `LocationControlAPI` returns to it. -/
inductive CtrlEvent (Config : Type)
  | locAPIGnssDeleteAidingData (session : ℕ)
  | locAPIEnable (session : ℕ)
  | locAPIDisable
  /-- `idArray` is the address of the ids, if there are any. -/
  | locAPIGnssUpdateConfig (config : Config) (idArray : Option ℕ)
  | locAPIGnssGetConfig (idArray : Option ℕ)
  | onCtrlResponseCb (error : LocationError) (id : ℕ)
  /-- The adapter answers the `i`-th of the calls that wait, with an array at the address `ids`. -/
  | onCtrlCollectiveResponseCb (i : ℕ) (ids : ℕ)
  deriving DecidableEq, Repr

namespace ControlClient

section Operations

variable (c : ControlClient Config)

/-- Change one of the queues. -/
def modifyQueue (type : CtrlRequestType) (f : RequestQueue CtrlRequest → RequestQueue CtrlRequest) :
    ControlClient Config :=
  { c with mRequestQueues := Function.update c.mRequestQueues type (f (c.mRequestQueues type)) }

/-- The queue of the requests for configurations. -/
def configQueue : ConfigCall → CtrlRequestType
  | .update => .configUpdate
  | .get => .configGet

/-- What both calls for configurations do with the ids they get. -/
def pushConfig (kind : ConfigCall) (idArray : Option ℕ) : ControlClient Config × List CtrlOutput :=
  match idArray with
  | none => (c, [])
  | some _ =>
    let queue := c.mRequestQueues (configQueue kind)
    let queue := if queue.mSessionArrayPtr ≠ none then queue.resetArray idArray else queue
    ({ c.modifyQueue (configQueue kind) fun _ ↦ queue.push (.config kind c.calls) with
        calls := c.calls + 1
        awaiting := c.awaiting ++ [(kind, c.calls)] },
      [.called kind c.calls])

/-- Pop a request of a queue and call its handler. -/
def popRequest (type : CtrlRequestType) (handler : CtrlRequest → List CtrlOutput) :
    ControlClient Config × List CtrlOutput :=
  match (c.mRequestQueues type).pop with
  | (none, _) => (c, [])
  | (some request, queue) =>
    (c.modifyQueue type fun _ ↦ queue, .popped request :: handler request)

/-- `getRequestBySession` and `onResponse` of the request. -/
def onCtrlResponseCb (error : LocationError) (id : ℕ) : ControlClient Config × List CtrlOutput :=
  if (c.mRequestQueues .deleteAidingData).mSession = id then
    c.popRequest .deleteAidingData (CtrlRequest.onResponse error)
  else if (c.mRequestQueues .control).mSession = id then
    c.popRequest .control (CtrlRequest.onResponse error)
  else (c, [])

/-- `getRequestBySessionArrayPtr` and `onCollectiveResponse` of the request. -/
def onCtrlCollectiveResponseCb (ids : ℕ) : ControlClient Config × List CtrlOutput :=
  if (c.mRequestQueues .configUpdate).mSessionArrayPtr = some ids then
    c.popRequest .configUpdate CtrlRequest.onCollectiveResponse
  else if (c.mRequestQueues .configGet).mSessionArrayPtr = some ids then
    c.popRequest .configGet CtrlRequest.onCollectiveResponse
  else (c, [])

end Operations

/-- `GnssConfig::equals` is the equality that `step` is given. -/
def step [BEq Config] (c : ControlClient Config) :
    CtrlEvent Config → Option (ControlClient Config × List CtrlOutput)
  | .locAPIGnssDeleteAidingData session =>
    if c.mLocationControlAPI then
      some (c.modifyQueue .deleteAidingData fun q ↦ (q.reset session).push .gnssDeleteAidingData, [])
    else some (c, [])
  | .locAPIEnable session =>
    if c.mEnabled then some (c, [])
    else if c.mLocationControlAPI then
      some ({ c.modifyQueue .control fun q ↦ (q.reset session).push .enable with
        mEnabled := true }, [])
    else some (c, [])
  | .locAPIDisable =>
    if c.mEnabled && c.mLocationControlAPI then
      if (c.mRequestQueues .control).mSession > 0 then
        some ({ c.modifyQueue .control fun q ↦ q.push .disable with mEnabled := false }, [])
      else some (c, [])
    else some (c, [])
  | .locAPIGnssUpdateConfig config idArray =>
    if c.mLocationControlAPI then
      if c.mConfig == config then some (c, [])
      else some ({ c with mConfig := config }.pushConfig .update idArray)
    else some (c, [])
  | .locAPIGnssGetConfig idArray =>
    if c.mLocationControlAPI then some (c.pushConfig .get idArray) else some (c, [])
  | .onCtrlResponseCb error id => some (c.onCtrlResponseCb error id)
  | .onCtrlCollectiveResponseCb i ids =>
    match c.awaiting[i]? with
    | none => none
    | some (kind, call) =>
      let result := { c with awaiting := c.awaiting.eraseIdx i }.onCtrlCollectiveResponseCb ids
      some (result.1, .responded kind call :: result.2)

/-- The client that the constructor makes. -/
def initial (mLocationControlAPI : Bool) (config : Config) : ControlClient Config where
  mLocationControlAPI := mLocationControlAPI
  mRequestQueues := fun _ ↦ .initial
  mEnabled := false
  mConfig := config
  calls := 0
  awaiting := []

end ControlClient

/-- Every response for a call has popped the request of the call, once, and the client has been
called back for it once. -/
def ConfigDelivered (outs : List CtrlOutput) : Prop :=
  ∀ kind call, .responded kind call ∈ outs →
    outs.count (.popped (.config kind call)) = 1 ∧ outs.count (.onConfigCb kind call) = 1

/-! ## The pointer of a queue is never set -/

namespace ControlClient

/-- The queues have no pointer, and those that are not for configurations hold no
requests for them. -/
structure Unset (c : ControlClient Config) : Prop where
  ptr : ∀ type, (c.mRequestQueues type).mSessionArrayPtr = none
  other : ∀ type, type = .deleteAidingData ∨ type = .control →
    ∀ request ∈ (c.mRequestQueues type).mQueue, request.isConfig = false

/-- An output that neither pops a request for a configuration nor calls back for one. -/
def Quiet : CtrlOutput → Prop
  | .popped request => request.isConfig = false
  | .onConfigCb .. => False
  | _ => True

variable {c : ControlClient Config}

theorem unset_initial (mLocationControlAPI : Bool) (config : Config) :
    (initial mLocationControlAPI config).Unset := by
  constructor
  · intro type
    rfl
  · intro type _ request hmem
    cases hmem

theorem mRequestQueues_modifyQueue (type type' : CtrlRequestType)
    (f : RequestQueue CtrlRequest → RequestQueue CtrlRequest) :
    (c.modifyQueue type f).mRequestQueues type' =
      if type' = type then f (c.mRequestQueues type) else c.mRequestQueues type' := by
  simp only [modifyQueue, Function.update_apply]

theorem Unset.modifyQueue (h : c.Unset) (type : CtrlRequestType)
    {f : RequestQueue CtrlRequest → RequestQueue CtrlRequest}
    (hptr : (f (c.mRequestQueues type)).mSessionArrayPtr = none)
    (hother : type = .deleteAidingData ∨ type = .control →
      ∀ request ∈ (f (c.mRequestQueues type)).mQueue, request.isConfig = false) :
    (c.modifyQueue type f).Unset := by
  constructor
  · intro type'
    rw [mRequestQueues_modifyQueue]
    split_ifs with htype
    · exact hptr
    · exact h.ptr type'
  · intro type'
    rw [mRequestQueues_modifyQueue]
    split_ifs with htype
    · exact htype ▸ hother
    · exact h.other type'

theorem Unset.pushConfig (h : c.Unset) (kind : ConfigCall) (idArray : Option ℕ) :
    (c.pushConfig kind idArray).1.Unset ∧ ∀ out ∈ (c.pushConfig kind idArray).2, Quiet out := by
  cases idArray with
  | none => exact ⟨h, by simp [ControlClient.pushConfig]⟩
  | some ptr =>
    have hnone := h.ptr (configQueue kind)
    have hqueue := h.modifyQueue (configQueue kind)
      (f := fun _ ↦ (c.mRequestQueues (configQueue kind)).push (.config kind c.calls)) hnone
      (by cases kind <;> simp [configQueue])
    simp only [ControlClient.pushConfig, hnone, ne_eq, not_true_eq_false, if_false]
    exact ⟨⟨hqueue.ptr, hqueue.other⟩, by simp [Quiet]⟩

theorem quiet_onResponse (error : LocationError) (request : CtrlRequest) :
    ∀ out ∈ request.onResponse error, Quiet out := by
  cases request <;> simp [CtrlRequest.onResponse, Quiet]

theorem Unset.popRequest (h : c.Unset) {type : CtrlRequestType}
    (htype : type = .deleteAidingData ∨ type = .control) (error : LocationError) :
    (c.popRequest type (CtrlRequest.onResponse error)).1.Unset ∧
      ∀ out ∈ (c.popRequest type (CtrlRequest.onResponse error)).2, Quiet out := by
  have hother := h.other type htype
  cases hqueue : (c.mRequestQueues type).mQueue with
  | nil =>
    simp only [ControlClient.popRequest, RequestQueue.pop, hqueue]
    exact ⟨h, by simp⟩
  | cons request queue =>
    rw [hqueue, List.forall_mem_cons] at hother
    simp only [ControlClient.popRequest, RequestQueue.pop, hqueue]
    refine ⟨h.modifyQueue type (h.ptr type) fun _ ↦ hother.2, ?_⟩
    rw [List.forall_mem_cons]
    exact ⟨hother.1, quiet_onResponse error request⟩

theorem Unset.step [BEq Config] (h : c.Unset) {e : CtrlEvent Config} {c' : ControlClient Config}
    {outs : List CtrlOutput} (hs : c.step e = some (c', outs)) :
    c'.Unset ∧ ∀ out ∈ outs, Quiet out := by
  cases e with
  | locAPIGnssDeleteAidingData session =>
    rw [ControlClient.step] at hs
    split at hs
    · obtain ⟨rfl, rfl⟩ := some_pair_inj hs
      refine ⟨h.modifyQueue _ (h.ptr .deleteAidingData) fun _ ↦ ?_, by simp⟩
      simp [RequestQueue.push, RequestQueue.reset, CtrlRequest.isConfig]
    · obtain ⟨rfl, rfl⟩ := some_pair_inj hs
      exact ⟨h, by simp⟩
  | locAPIEnable session =>
    rw [ControlClient.step] at hs
    split_ifs at hs
    · obtain ⟨rfl, rfl⟩ := some_pair_inj hs
      exact ⟨h, by simp⟩
    · obtain ⟨rfl, rfl⟩ := some_pair_inj hs
      have hqueue := h.modifyQueue .control
        (f := fun q ↦ (q.reset session).push .enable) (h.ptr .control) fun _ ↦ by
          simp [RequestQueue.push, RequestQueue.reset, CtrlRequest.isConfig]
      exact ⟨⟨hqueue.ptr, hqueue.other⟩, by simp⟩
    · obtain ⟨rfl, rfl⟩ := some_pair_inj hs
      exact ⟨h, by simp⟩
  | locAPIDisable =>
    rw [ControlClient.step] at hs
    split_ifs at hs
    · obtain ⟨rfl, rfl⟩ := some_pair_inj hs
      have hqueue := h.modifyQueue .control (f := fun q ↦ q.push .disable)
        (h.ptr .control) fun hcontrol request hmem ↦ by
          rcases List.mem_append.mp hmem with hmem | hmem
          · exact h.other .control hcontrol request hmem
          · rw [List.mem_singleton.mp hmem]
            rfl
      exact ⟨⟨hqueue.ptr, hqueue.other⟩, by simp⟩
    all_goals
      obtain ⟨rfl, rfl⟩ := some_pair_inj hs
      exact ⟨h, by simp⟩
  | locAPIGnssUpdateConfig config idArray =>
    rw [ControlClient.step] at hs
    split_ifs at hs
    · obtain ⟨rfl, rfl⟩ := some_pair_inj hs
      exact ⟨h, by simp⟩
    · have hconfig : Unset { c with mConfig := config } := ⟨h.ptr, h.other⟩
      have hpush := hconfig.pushConfig .update idArray
      rw [Option.some_inj.mp hs] at hpush
      exact hpush
    · obtain ⟨rfl, rfl⟩ := some_pair_inj hs
      exact ⟨h, by simp⟩
  | locAPIGnssGetConfig idArray =>
    rw [ControlClient.step] at hs
    split_ifs at hs
    · have hpush := h.pushConfig .get idArray
      rw [Option.some_inj.mp hs] at hpush
      exact hpush
    · obtain ⟨rfl, rfl⟩ := some_pair_inj hs
      exact ⟨h, by simp⟩
  | onCtrlResponseCb error id =>
    rw [ControlClient.step, ControlClient.onCtrlResponseCb] at hs
    split_ifs at hs
    · have hpop := h.popRequest (Or.inl rfl) error
      rw [Option.some_inj.mp hs] at hpop
      exact hpop
    · have hpop := h.popRequest (Or.inr rfl) error
      rw [Option.some_inj.mp hs] at hpop
      exact hpop
    · obtain ⟨rfl, rfl⟩ := some_pair_inj hs
      exact ⟨h, by simp⟩
  | onCtrlCollectiveResponseCb i ids =>
    rw [ControlClient.step] at hs
    split at hs
    · cases hs
    · next kind call hcall =>
      -- no pointer is equal to that of the response
      simp only [ControlClient.onCtrlCollectiveResponseCb, h.ptr, reduceCtorEq, if_false] at hs
      obtain ⟨rfl, rfl⟩ := some_pair_inj hs
      exact ⟨⟨h.ptr, h.other⟩, by simp [Quiet]⟩

end ControlClient

/-- The response for a call never finds the request of the call: along every run, what the client
was promised holds only as long as the adapter has not responded to any of its calls. -/
theorem configDelivered_iff_of_run [BEq Config] {mLocationControlAPI : Bool} {config : Config}
    {hist : List (Item (CtrlEvent Config) CtrlOutput)} {c : ControlClient Config}
    (h : Run ControlClient.step (fun _ _ ↦ True)
      (ControlClient.initial mLocationControlAPI config) hist c) :
    ConfigDelivered (outsOf hist) ↔ ∀ kind call, .responded kind call ∉ outsOf hist := by
  have hquiet : c.Unset ∧ ∀ out ∈ outsOf hist, ControlClient.Quiet out := by
    apply h.invariant (I := fun hist c ↦ c.Unset ∧ ∀ out ∈ outsOf hist, ControlClient.Quiet out)
    · exact ⟨ControlClient.unset_initial _ _, by simp⟩
    · rintro hist c e c' outs ⟨hunset, hhist⟩ - hs
      obtain ⟨hunset', houts⟩ := hunset.step hs
      refine ⟨hunset', fun out hmem ↦ ?_⟩
      rw [outsOf_append_entry] at hmem
      rcases List.mem_append.mp hmem with hmem | hmem
      · exact hhist out hmem
      · exact houts out hmem
  constructor
  · intro hdelivered kind call hmem
    have hcount := (hdelivered kind call hmem).2
    have hnot : CtrlOutput.onConfigCb kind call ∉ outsOf hist := fun hcb ↦ hquiet.2 _ hcb
    rw [List.count_eq_zero.mpr hnot] at hcount
    cases hcount
  · intro hnone kind call hmem
    exact absurd hmem (hnone kind call)

/-- A configuration is set and the adapter responds. -/
theorem configDelivered_iff_of_run_update :
    ∃ hist c, Run ControlClient.step (fun _ _ ↦ True)
      (ControlClient.initial true (0 : ℕ)) hist c ∧ .responded .update 0 ∈ outsOf hist ∧
        ¬ConfigDelivered (outsOf hist) := by
  obtain ⟨hist, c, hrun, hmem⟩ := Run.exists_of_runEvents ControlClient.step (fun _ _ ↦ True)
    (ControlClient.initial true (0 : ℕ))
    [.locAPIGnssUpdateConfig 1 (some 16), .onCtrlCollectiveResponseCb 0 32]
    (fun hist _ ↦ .responded .update 0 ∈ outsOf hist) (by decide +kernel)
  have hresponded := hmem
  exact ⟨hist, c, hrun, hresponded, fun hdelivered ↦
    (configDelivered_iff_of_run hrun).mp hdelivered .update 0 hresponded⟩

/-- A configuration is asked for, and the request stays in its queue when the adapter
has responded. -/
theorem not_configDelivered :
    ∃ hist c, Run ControlClient.step (fun _ _ ↦ True)
      (ControlClient.initial true (0 : ℕ)) hist c ∧ .called .get 0 ∈ outsOf hist ∧
        .responded .get 0 ∈ outsOf hist ∧ .onConfigCb .get 0 ∉ outsOf hist ∧
        (c.mRequestQueues .configGet).mQueue = [.config .get 0] := by
  exact Run.exists_of_decide [.locAPIGnssGetConfig (some 16), .onCtrlCollectiveResponseCb 0 16]
    (by decide +kernel)

end MataDevice.Client
