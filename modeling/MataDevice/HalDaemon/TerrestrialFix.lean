import MataDevice.HalDaemon.Service

/-!
# Single terrestrial fixes

A client asks the HAL daemon for one fix from the network. The request is kept under the name of the
client, with a timer, until a fix comes or the timer has expired and its message is processed; a
request that is made again while it is kept is the same request. The network location session is
started with the first request and has to run as long as there is one. Whether it runs is not kept
anywhere: it is started and stopped where the number of requests is a certain one.

The requests may be made by a name that is not registered, and a client may be removed while it has
one. The user has given the consent. What is called through the handler of a client that is not there
is an output of its own, after which the model goes on as if the call did nothing.
-/

namespace MataDevice.HalDaemon

open List
open MataDevice.Tracking (LocationError)
open Option (none_or some_or ne_none_iff_exists')
open OrderedMap (size_erase_of_find? find?_erase find?_insert)

/-- The part of the service that is about terrestrial fixes. -/
structure TerrestrialService where
  /-- -1: not set, 0: the user has not opted in, 1: the user has. -/
  mOptInTerrestrialService : ℤ
  mClients : List SocketName
  /-- The requests, each with whether its timer is running. -/
  mTerrestrialFixReqs : OrderedMap SocketName Bool
  /-- The messages of expired timers that wait in the queue of the task. -/
  timeouts : List SocketName

inductive TerrestrialEvent
  | newClient (name : SocketName)
  | deleteClient (name : SocketName)
  | getSingleTerrestrialPos (name : SocketName)
  /-- The timer of a request expires and queues its message. -/
  | timeOutCallback (name : SocketName)
  /-- The oldest message of a timer is processed. -/
  | gtpFixRequestTimeout
  /-- The network has a location, with `LOCATION_HAS_LAT_LONG_BIT` or without. -/
  | onGtpWwanTrackingCallback (hasLatLong : Bool)
  deriving DecidableEq, Repr

inductive TerrestrialOutput
  | registered (name : SocketName)
  | removed (name : SocketName)
  | startNetworkLocation
  | stopNetworkLocation
  | sendTerrestrialFix (name : SocketName) (err : LocationError)
  /-- A fix is sent through the handler of a name that has none. -/
  | missingHandler (name : SocketName)
  deriving DecidableEq, Repr

namespace TerrestrialService

/-- A service whose user has opted in. -/
def start : TerrestrialService := ⟨1, [], .empty, []⟩

variable (s : TerrestrialService)

def newClient (name : SocketName) : TerrestrialService × List TerrestrialOutput :=
  if name ∈ s.mClients then (s, [])
  else ({ s with mClients := name :: s.mClients }, [.registered name])

/-- The session is not stopped here, whatever was the last request. -/
def deleteClientbyName (name : SocketName) : TerrestrialService × List TerrestrialOutput :=
  if name ∈ s.mClients then
    ({ s with
        mClients := s.mClients.filter (· ≠ name)
        mTerrestrialFixReqs := s.mTerrestrialFixReqs.erase name },
      [.removed name])
  else (s, [])

/-- `emplace` keeps a request that is there, and `start` a timer that is running; either way the
request is there afterwards, and its timer runs. -/
def getSingleTerrestrialPos (name : SocketName) : TerrestrialService × List TerrestrialOutput :=
  if s.mOptInTerrestrialService ≠ 1 then
    (s, if name ∈ s.mClients then [.sendTerrestrialFix name .notSupported] else [])
  else
    let reqs := s.mTerrestrialFixReqs.insert name true
    ({ s with mTerrestrialFixReqs := reqs }, if reqs.size = 1 then [.startNetworkLocation] else [])

def timeOutCallback (name : SocketName) : TerrestrialService :=
  { s with
    mTerrestrialFixReqs := s.mTerrestrialFixReqs.insert name false
    timeouts := s.timeouts ++ [name] }

/-- The size is that after the request is erased. -/
def gtpFixRequestTimeout (name : SocketName) : TerrestrialService × List TerrestrialOutput :=
  match s.mTerrestrialFixReqs.find? name with
  | none => (s, [])
  | some _ =>
    let reqs := s.mTerrestrialFixReqs.erase name
    ({ s with mTerrestrialFixReqs := reqs },
      (if name ∈ s.mClients then [.sendTerrestrialFix name .timeout] else []) ++
        if reqs.size = 1 then [.stopNetworkLocation] else [])

/-- The names of the requests are not looked up before they are used. -/
def onGtpWwanTrackingCallback (hasLatLong : Bool) : TerrestrialService × List TerrestrialOutput :=
  if s.mTerrestrialFixReqs.size ≠ 0 ∧ hasLatLong ∧ s.mOptInTerrestrialService = 1 then
    ({ s with mTerrestrialFixReqs := .empty },
      (s.mTerrestrialFixReqs.entries.map fun it ↦
          if it.1 ∈ s.mClients then .sendTerrestrialFix it.1 .success else .missingHandler it.1) ++
        [.stopNetworkLocation])
  else (s, [])

def step : TerrestrialEvent → Option (TerrestrialService × List TerrestrialOutput)
  | .newClient name => some (s.newClient name)
  | .deleteClient name => some (s.deleteClientbyName name)
  | .getSingleTerrestrialPos name => some (s.getSingleTerrestrialPos name)
  | .timeOutCallback name =>
    if s.mTerrestrialFixReqs.find? name = some true then some (s.timeOutCallback name, []) else none
  | .gtpFixRequestTimeout =>
    match s.timeouts with
    | [] => none
    | name :: timeouts => some ({ s with timeouts }.gtpFixRequestTimeout name)
  | .onGtpWwanTrackingCallback hasLatLong => some (s.onGtpWwanTrackingCallback hasLatLong)

/-- A time-out leaves two other requests at least, the removal of a client is not that of the last
request, and a fix finds all names registered. -/
def Guard : TerrestrialEvent → Prop
  | .gtpFixRequestTimeout =>
    ∀ name ∈ s.timeouts.head?, s.mTerrestrialFixReqs.find? name ≠ none →
      3 ≤ s.mTerrestrialFixReqs.size
  | .deleteClient name =>
    name ∈ s.mClients → s.mTerrestrialFixReqs.find? name ≠ none → s.mTerrestrialFixReqs.size ≠ 1
  | .onGtpWwanTrackingCallback hasLatLong =>
    hasLatLong = true → ∀ it ∈ s.mTerrestrialFixReqs.entries, it.1 ∈ s.mClients
  | .newClient _ | .getSingleTerrestrialPos _ | .timeOutCallback _ => True

instance : ∀ e, Decidable (s.Guard e)
  | .gtpFixRequestTimeout => inferInstanceAs (Decidable (∀ name ∈ s.timeouts.head?, _ → _))
  | .deleteClient name => inferInstanceAs (Decidable (_ → _))
  | .onGtpWwanTrackingCallback hasLatLong => inferInstanceAs (Decidable (_ → _))
  | .newClient _ | .getSingleTerrestrialPos _ | .timeOutCallback _ =>
    inferInstanceAs (Decidable True)

end TerrestrialService

/-! ## Reading a history -/

abbrev TerrestrialItem : Type := Item TerrestrialEvent TerrestrialOutput

/-- The session was started, and not stopped later. -/
def networkReading : TerrestrialItem → Option Bool
  | .out .startNetworkLocation => some true
  | .out .stopNetworkLocation => some false
  | _ => none

def NetworkRunning (hist : List TerrestrialItem) : Prop := latest networkReading hist = some true

/-- The client was registered, and not removed later. -/
def registrationReading (name : SocketName) : TerrestrialItem → Option Bool
  | .out (.registered name') => if name' = name then some true else none
  | .out (.removed name') => if name' = name then some false else none
  | _ => none

def Registered (name : SocketName) (hist : List TerrestrialItem) : Prop :=
  latest (registrationReading name) hist = some true

/-- The client has made a request, and was not answered or removed since. -/
def requestReading (name : SocketName) : TerrestrialItem → Option Bool
  | .event (.getSingleTerrestrialPos name') => if name' = name then some true else none
  | .out (.sendTerrestrialFix name' _) | .out (.removed name') =>
    if name' = name then some false else none
  | _ => none

def Requested (name : SocketName) (hist : List TerrestrialItem) : Prop :=
  latest (requestReading name) hist = some true

/-- An answer to the client, or its removal. -/
def Settles (name : SocketName) (x : TerrestrialItem) : Prop :=
  (∃ err, x = .out (.sendTerrestrialFix name err)) ∨ x = .out (.removed name)

/-- A request that the client made while it was registered has not been answered, and the client not
removed. -/
def Unanswered (name : SocketName) (hist : List TerrestrialItem) : Prop :=
  ∃ pre post, hist = pre ++ .event (.getSingleTerrestrialPos name) :: post ∧ Registered name pre ∧
    ∀ x ∈ post, ¬Settles name x

/-- An answer is a fix or a time-out, and it is the first one to a request. -/
def AnswersRequest (pre : List TerrestrialItem) (x : TerrestrialItem) : Prop :=
  ∀ name err, x = .out (.sendTerrestrialFix name err) →
    Requested name pre ∧ (err = .success ∨ err = .timeout)

/-- The network session runs if there are requests, an answer is to a request that had none before,
a request without an answer is kept and its time-out still to come, and nothing is sent through a
handler that is not there. -/
structure TerrestrialLaw (hist : List TerrestrialItem) (s : TerrestrialService) : Prop where
  network : NetworkRunning hist ↔ s.mTerrestrialFixReqs.size ≠ 0
  answers : Always AnswersRequest hist
  kept : ∀ name, Unanswered name hist → ∃ timer, s.mTerrestrialFixReqs.find? name = some timer ∧
    (timer = true ∨ name ∈ s.timeouts)
  handlers : ∀ name, .missingHandler name ∉ outsOf hist

section Appending

variable {hist : List TerrestrialItem} {e : TerrestrialEvent} {outs : List TerrestrialOutput}
  {name : SocketName}

theorem networkRunning_append_entry : NetworkRunning (hist ++ entry e outs) ↔
    (latest networkReading (outs.map .out)).or (latest networkReading hist) = some true := by
  rw [NetworkRunning, append_entry, latest_append, latest_concat]
  rfl

theorem registered_append_entry : Registered name (hist ++ entry e outs) ↔
    (latest (registrationReading name) (outs.map .out)).or
      (latest (registrationReading name) hist) = some true := by
  rw [Registered, append_entry, latest_append, latest_concat]
  rfl

/-- Other outputs do not change who is registered. -/
theorem registered_append_entry_of_none
    (houts : ∀ o ∈ outs, registrationReading name (.out o) = none) :
    Registered name (hist ++ entry e outs) ↔ Registered name hist := by
  rw [registered_append_entry, ← List.append_nil (outs.map Item.out)]
  have hnone : latest (registrationReading name) (outs.map Item.out ++ []) = none := by
    rw [List.append_nil]
    refine findSome?_eq_none_iff.mpr fun x hx ↦ ?_
    obtain ⟨o, ho, rfl⟩ := mem_map.mp (mem_reverse.mp hx)
    exact houts o ho
  rw [hnone, none_or]
  rfl

/-- An event does not take a request back. -/
theorem Requested.append_event (h : Requested name hist) (e : TerrestrialEvent) :
    Requested name (hist ++ [.event e]) := by
  rw [Requested, latest_concat]
  have hread : requestReading name (.event e) = none ∨
      requestReading name (.event e) = some true := by
    cases e with
    | getSingleTerrestrialPos name' =>
      rw [requestReading]
      split
      · exact Or.inr rfl
      · exact Or.inl rfl
    | _ => exact Or.inl rfl
  rcases hread with hread | hread
  · rw [hread, none_or]
    exact h
  · rw [hread]
    rfl

theorem Requested.append_entry (h : Requested name hist) (e : TerrestrialEvent)
    (houts : ∀ o ∈ outs, requestReading name (.out o) = none) :
    Requested name (hist ++ entry e outs) := by
  rw [MataDevice.append_entry, Requested, latest_append_of_none]
  · exact h.append_event e
  · intro x hx
    obtain ⟨o, ho, rfl⟩ := mem_map.mp hx
    exact houts o ho

theorem always_answersRequest_append (h : Always AnswersRequest hist)
    (houts : ∀ outs₁ name err outs₂, outs = outs₁ ++ .sendTerrestrialFix name err :: outs₂ →
      Requested name hist ∧ (err = .success ∨ err = .timeout) ∧
        ∀ o ∈ outs₁, requestReading name (.out o) = none) :
    Always AnswersRequest (hist ++ entry e outs) := by
  rw [append_entry, always_append, always_concat]
  refine ⟨⟨h, fun name err hx ↦ by cases hx⟩, fun pre x post heq name err hx ↦ ?_⟩
  subst hx
  obtain ⟨outs₁, outs₂, rfl, rfl, hpost⟩ := map_eq_append_iff.mp heq
  obtain ⟨o, outs₂, rfl, ho, rfl⟩ := map_eq_cons_iff.mp hpost
  obtain rfl := Item.out.inj ho
  obtain ⟨hreq, herr, hnone⟩ := houts outs₁ name err outs₂ rfl
  refine ⟨?_, herr⟩
  have hentry := hreq.append_entry e hnone
  rwa [MataDevice.append_entry] at hentry

/-- A request without an answer has none in the new outputs, and is an old or the new one. -/
theorem unanswered_append_entry (h : Unanswered name (hist ++ entry e outs)) :
    (∀ o ∈ outs, ¬Settles name (.out o)) ∧
      (Unanswered name hist ∨ e = .getSingleTerrestrialPos name ∧ Registered name hist) := by
  obtain ⟨pre, post, heq, hreg, hpost⟩ := h
  rcases append_eq_append_iff.mp heq with ⟨mid, rfl, hmid⟩ | ⟨mid, rfl, hmid⟩
  · cases mid with
    | nil =>
      obtain ⟨he, rfl⟩ := cons_eq_cons.mp hmid
      rw [List.append_nil] at hreg
      exact ⟨fun o ho ↦ hpost _ (mem_map_of_mem ho), Or.inr ⟨Item.event.inj he, hreg⟩⟩
    | cons x mid =>
      -- an event is not among the outputs
      obtain ⟨-, hmid⟩ := cons_eq_cons.mp hmid
      have hmem : Item.event (TerrestrialEvent.getSingleTerrestrialPos name) ∈
          outs.map Item.out := by
        rw [hmid]
        simp
      obtain ⟨o, -, ho⟩ := mem_map.mp hmem
      cases ho
  · cases mid with
    | nil =>
      obtain ⟨he, rfl⟩ := cons_eq_cons.mp hmid
      rw [List.append_nil]
      exact ⟨fun o ho ↦ hpost _ (mem_map_of_mem ho), Or.inr ⟨(Item.event.inj he).symm, hreg⟩⟩
    | cons x mid =>
      obtain ⟨rfl, rfl⟩ := cons_eq_cons.mp hmid
      refine ⟨fun o ho ↦ hpost _ (mem_append_right _ ?_), Or.inl ⟨pre, mid, rfl, hreg, ?_⟩⟩
      · exact mem_cons_of_mem _ (mem_map_of_mem ho)
      · exact fun y hy ↦ hpost y (mem_append_left _ hy)

end Appending

/-! ## What the steps keep -/

namespace TerrestrialService

/-- What is known of a state after a history: besides the law, whose requests may be kept, and which
timers may have expired. -/
structure Kept (hist : List TerrestrialItem) (s : TerrestrialService) : Prop where
  network : NetworkRunning hist ↔ s.mTerrestrialFixReqs.size ≠ 0
  answers : Always AnswersRequest hist
  handlers : ∀ name, .missingHandler name ∉ outsOf hist
  optIn : s.mOptInTerrestrialService = 1
  registered : ∀ name, name ∈ s.mClients ↔ Registered name hist
  requested : ∀ name, s.mTerrestrialFixReqs.find? name ≠ none → Requested name hist
  timers : ∀ name, s.mTerrestrialFixReqs.find? name = some false → name ∈ s.timeouts
  unanswered : ∀ name, Unanswered name hist →
    s.mTerrestrialFixReqs.find? name ≠ none ∧ name ∈ s.mClients

variable {s s' : TerrestrialService} {hist : List TerrestrialItem} {e : TerrestrialEvent}
  {outs : List TerrestrialOutput} {name : SocketName}

theorem Kept.law (h : Kept hist s) : TerrestrialLaw hist s where
  network := h.network
  answers := h.answers
  handlers := h.handlers
  kept name hname := by
    obtain ⟨timer, htimer⟩ := ne_none_iff_exists'.mp (h.unanswered name hname).1
    refine ⟨timer, htimer, ?_⟩
    cases timer with
    | true => exact Or.inl rfl
    | false => exact Or.inr (h.timers name htimer)

theorem kept_start : Kept [] start where
  network := by simp [NetworkRunning, start, OrderedMap.size, OrderedMap.empty]
  answers := always_nil _
  handlers := by simp
  optIn := rfl
  registered := by simp [start, Registered]
  requested := by simp [start]
  timers := by simp [start]
  unanswered := by
    rintro name ⟨pre, post, heq, -⟩
    simp at heq

/-- A step that says nothing, is no request and keeps the requests that are there. -/
theorem Kept.frame (h : Kept hist s) (he : ∀ name, e ≠ .getSingleTerrestrialPos name)
    (hopt : s'.mOptInTerrestrialService = s.mOptInTerrestrialService)
    (hclients : s'.mClients = s.mClients)
    (hreqs : ∀ name, s'.mTerrestrialFixReqs.find? name ≠ none ↔
      s.mTerrestrialFixReqs.find? name ≠ none)
    (hsize : s'.mTerrestrialFixReqs.size = s.mTerrestrialFixReqs.size)
    (htimers : ∀ name, s'.mTerrestrialFixReqs.find? name = some false → name ∈ s'.timeouts) :
    Kept (hist ++ entry e []) s' where
  network := by
    rw [networkRunning_append_entry, hsize]
    exact h.network
  answers := always_answersRequest_append h.answers (by simp)
  handlers := by simpa using h.handlers
  optIn := hopt.trans h.optIn
  registered name := by
    rw [registered_append_entry, hclients]
    exact h.registered name
  requested name hname := (h.requested name ((hreqs name).mp hname)).append_entry e (by simp)
  timers := htimers
  unanswered name hname := by
    rcases (unanswered_append_entry hname).2 with hold | ⟨hrequest, -⟩
    · rw [hreqs, hclients]
      exact h.unanswered name hold
    · exact absurd hrequest (he name)

theorem Kept.idle (h : Kept hist s) (he : ∀ name, e ≠ .getSingleTerrestrialPos name) :
    Kept (hist ++ entry e []) s :=
  h.frame he rfl rfl (fun _ ↦ Iff.rfl) rfl h.timers

theorem Kept.newClient (h : Kept hist s) (name : SocketName) :
    Kept (hist ++ entry (.newClient name) (s.newClient name).2) (s.newClient name).1 := by
  by_cases hname : name ∈ s.mClients
  · rw [TerrestrialService.newClient, if_pos hname]
    exact h.idle (by simp)
  · rw [TerrestrialService.newClient, if_neg hname]
    constructor
    · rw [networkRunning_append_entry]
      exact h.network
    · refine always_answersRequest_append h.answers fun outs₁ name err outs₂ heq ↦ ?_
      cases outs₁ <;> simp at heq
    · simpa using h.handlers
    · exact h.optIn
    · intro name'
      rw [registered_append_entry, map_singleton, latest_singleton, registrationReading]
      by_cases heq : name = name'
      · simp [heq]
      · rw [if_neg heq, none_or, mem_cons]
        simp only [Ne.symm heq, false_or]
        exact h.registered name'
    · exact fun name' hname' ↦ (h.requested name' hname').append_entry _ (by simp [requestReading])
    · exact h.timers
    · intro name' hname'
      rcases (unanswered_append_entry hname').2 with hold | ⟨hrequest, -⟩
      · exact ⟨(h.unanswered name' hold).1, mem_cons_of_mem _ (h.unanswered name' hold).2⟩
      · cases hrequest

theorem Kept.deleteClientbyName (h : Kept hist s) (hguard : s.Guard (.deleteClient name)) :
    Kept (hist ++ entry (.deleteClient name) (s.deleteClientbyName name).2)
      (s.deleteClientbyName name).1 := by
  by_cases hname : name ∈ s.mClients
  · rw [TerrestrialService.deleteClientbyName, if_pos hname]
    constructor
    · rw [networkRunning_append_entry]
      refine h.network.trans ?_
      change _ ↔ (s.mTerrestrialFixReqs.erase name).size ≠ 0
      cases hfind : s.mTerrestrialFixReqs.find? name with
      | none => rw [OrderedMap.erase_of_find?_eq_none hfind]
      | some timer =>
        have hsize := size_erase_of_find? hfind
        have hone := hguard hname (by simp [hfind])
        omega
    · refine always_answersRequest_append h.answers fun outs₁ name err outs₂ heq ↦ ?_
      cases outs₁ <;> simp at heq
    · simpa using h.handlers
    · exact h.optIn
    · intro name'
      rw [registered_append_entry, map_singleton, latest_singleton, registrationReading]
      by_cases heq : name = name'
      · simp [heq]
      · rw [if_neg heq, none_or, mem_filter]
        simp only [ne_eq, Ne.symm heq, not_false_eq_true, decide_true, and_true]
        exact h.registered name'
    · intro name' hname'
      change (s.mTerrestrialFixReqs.erase name).find? name' ≠ none at hname'
      rw [find?_erase] at hname'
      by_cases heq : name' = name
      · simp [heq] at hname'
      · rw [if_neg heq] at hname'
        exact (h.requested name' hname').append_entry _ (by simp [requestReading, Ne.symm heq])
    · intro name' hname'
      change (s.mTerrestrialFixReqs.erase name).find? name' = some false at hname'
      rw [find?_erase] at hname'
      split at hname'
      · cases hname'
      · exact h.timers name' hname'
    · intro name' hname'
      obtain ⟨hnone, hold | ⟨hrequest, -⟩⟩ := unanswered_append_entry hname'
      · have hne : name' ≠ name := fun heq ↦ hnone _ mem_cons_self (heq ▸ Or.inr rfl)
        obtain ⟨hreq, hclient⟩ := h.unanswered name' hold
        refine ⟨?_, mem_filter.mpr ⟨hclient, by simpa using hne⟩⟩
        change (s.mTerrestrialFixReqs.erase name).find? name' ≠ none
        rwa [find?_erase, if_neg hne]
      · cases hrequest
  · rw [TerrestrialService.deleteClientbyName, if_neg hname]
    exact h.idle (by simp)

theorem getSingleTerrestrialPos_of_optIn (hopt : s.mOptInTerrestrialService = 1)
    (name : SocketName) :
    s.getSingleTerrestrialPos name =
      ({ s with mTerrestrialFixReqs := s.mTerrestrialFixReqs.insert name true },
        if (s.mTerrestrialFixReqs.insert name true).size = 1 then [.startNetworkLocation]
        else []) := by
  rw [TerrestrialService.getSingleTerrestrialPos, if_neg (not_not.mpr hopt)]

section

variable (h : Kept hist s)
include h

theorem Kept.getSingleTerrestrialPos (name : SocketName) :
    Kept (hist ++ entry (.getSingleTerrestrialPos name) (s.getSingleTerrestrialPos name).2)
      (s.getSingleTerrestrialPos name).1 := by
  rw [getSingleTerrestrialPos_of_optIn h.optIn]
  have hold : (s.mTerrestrialFixReqs.insert name true).size ≠ 1 →
      s.mTerrestrialFixReqs.size ≠ 0 := by
    intro hne hzero
    have hnone := OrderedMap.size_eq_zero_iff.mp hzero name
    rw [OrderedMap.size_insert_of_find?_eq_none hnone, hzero] at hne
    exact hne rfl
  have hfind : ∀ name', (s.mTerrestrialFixReqs.insert name true).find? name' =
      if name' = name then some true else s.mTerrestrialFixReqs.find? name' :=
    fun name' ↦ find?_insert name'
  have hsize := OrderedMap.size_insert (m := s.mTerrestrialFixReqs) (k := name) (v := true)
  -- the only output there may be is the start of the session
  generalize houtsEq : (if (s.mTerrestrialFixReqs.insert name true).size = 1 then
      [TerrestrialOutput.startNetworkLocation] else []) = outs
  have houts : ∀ o ∈ outs, o = .startNetworkLocation := by
    intro o ho
    rw [← houtsEq] at ho
    split at ho
    · exact mem_singleton.mp ho
    · cases ho
  constructor
  · rw [networkRunning_append_entry, ← houtsEq]
    change _ ↔ (s.mTerrestrialFixReqs.insert name true).size ≠ 0
    by_cases hone : (s.mTerrestrialFixReqs.insert name true).size = 1
    · simp [hone, latest_singleton, networkReading]
    · rw [if_neg hone, map_nil, latest_nil, none_or]
      exact h.network.trans ⟨fun _ ↦ by omega, fun _ ↦ hold hone⟩
  · refine always_answersRequest_append h.answers fun outs₁ name' err outs₂ heq ↦ ?_
    change outs = _ at heq
    cases houts (.sendTerrestrialFix name' err) (by simp [heq])
  · intro name' hname'
    rw [outsOf_append_entry] at hname'
    rcases mem_append.mp hname' with hname' | hname'
    · exact h.handlers name' hname'
    · cases houts _ hname'
  · exact h.optIn
  · intro name'
    rw [registered_append_entry_of_none]
    · exact h.registered name'
    · intro o ho
      rw [houts o ho]
      rfl
  · intro name' hname'
    change (s.mTerrestrialFixReqs.insert name true).find? name' ≠ none at hname'
    rw [hfind] at hname'
    by_cases heq : name' = name
    · rw [append_entry, Requested, latest_append_of_none, latest_concat, requestReading,
        if_pos heq.symm, some_or]
      intro x hx
      obtain ⟨o, ho, rfl⟩ := mem_map.mp hx
      rw [houts o ho]
      rfl
    · rw [if_neg heq] at hname'
      refine (h.requested name' hname').append_entry _ fun o ho ↦ ?_
      rw [houts o ho]
      rfl
  · intro name' hname'
    change (s.mTerrestrialFixReqs.insert name true).find? name' = some false at hname'
    rw [hfind] at hname'
    split at hname'
    · cases hname'
    · exact h.timers name' hname'
  · intro name' hname'
    change (s.mTerrestrialFixReqs.insert name true).find? name' ≠ none ∧ name' ∈ s.mClients
    rw [hfind]
    rcases (unanswered_append_entry hname').2 with hold | ⟨hrequest, hreg⟩
    · refine ⟨?_, (h.unanswered name' hold).2⟩
      split
      · simp
      · exact (h.unanswered name' hold).1
    · obtain rfl := TerrestrialEvent.getSingleTerrestrialPos.inj hrequest
      exact ⟨by simp, (h.registered name).mpr hreg⟩

theorem Kept.timeOutCallback (hname : s.mTerrestrialFixReqs.find? name = some true) :
    Kept (hist ++ entry (.timeOutCallback name) []) (s.timeOutCallback name) := by
  refine h.frame (by simp) rfl rfl (fun name' ↦ ?_) ?_ fun name' hname' ↦ ?_
  · change (s.mTerrestrialFixReqs.insert name false).find? name' ≠ none ↔ _
    rw [find?_insert]
    split
    · next heq => simp [heq, hname]
    · rfl
  · exact OrderedMap.size_insert_of_find? hname
  · change (s.mTerrestrialFixReqs.insert name false).find? name' = some false at hname'
    change name' ∈ s.timeouts ++ [name]
    rw [find?_insert] at hname'
    split at hname'
    · next heq => simp [heq]
    · exact mem_append_left _ (h.timers name' hname')

/-- The message of a timer is processed, for a request that is there or one that is not any more. -/
theorem Kept.gtpFixRequestTimeout {timeouts : List SocketName}
    (htimeouts : s.timeouts = name :: timeouts) (hguard : s.Guard .gtpFixRequestTimeout) :
    Kept (hist ++ entry .gtpFixRequestTimeout ({ s with timeouts }.gtpFixRequestTimeout name).2)
      ({ s with timeouts }.gtpFixRequestTimeout name).1 := by
  cases hfind : s.mTerrestrialFixReqs.find? name with
  | none =>
    simp only [TerrestrialService.gtpFixRequestTimeout, hfind]
    refine h.frame (by simp) rfl rfl (fun _ ↦ Iff.rfl) rfl fun name' hname' ↦ ?_
    have hmem := h.timers name' hname'
    rw [htimeouts] at hmem
    rcases mem_cons.mp hmem with rfl | hmem
    · rw [hfind] at hname'
      cases hname'
    · exact hmem
  | some timer =>
    have hthree := hguard name (by rw [htimeouts]; rfl) (by simp [hfind])
    have hsize := size_erase_of_find? hfind
    have hone : (s.mTerrestrialFixReqs.erase name).size ≠ 1 := by omega
    have hreq : Requested name hist := h.requested name (by simp [hfind])
    have herase : ∀ name', (s.mTerrestrialFixReqs.erase name).find? name' =
        if name' = name then none else s.mTerrestrialFixReqs.find? name' :=
      fun name' ↦ find?_erase name'
    simp only [TerrestrialService.gtpFixRequestTimeout, hfind, if_neg hone, List.append_nil]
    generalize houtsEq : (if name ∈ s.mClients then
      [TerrestrialOutput.sendTerrestrialFix name .timeout] else []) = outs
    have houts : ∀ o ∈ outs, o = .sendTerrestrialFix name .timeout := by
      intro o ho
      rw [← houtsEq] at ho
      split at ho
      · exact mem_singleton.mp ho
      · cases ho
    constructor
    · have hnone : latest networkReading (outs.map Item.out) = none := by
        refine findSome?_eq_none_iff.mpr fun x hx ↦ ?_
        obtain ⟨o, ho, rfl⟩ := mem_map.mp (mem_reverse.mp hx)
        rw [houts o ho]
        rfl
      rw [networkRunning_append_entry, hnone, none_or]
      change _ ↔ (s.mTerrestrialFixReqs.erase name).size ≠ 0
      exact h.network.trans ⟨fun _ ↦ by omega, fun _ ↦ by omega⟩
    · refine always_answersRequest_append h.answers fun outs₁ name' err outs₂ heq ↦ ?_
      have hsend := houts (.sendTerrestrialFix name' err) (by simp [heq])
      obtain ⟨rfl, rfl⟩ := TerrestrialOutput.sendTerrestrialFix.inj hsend
      refine ⟨hreq, Or.inr rfl, ?_⟩
      -- it is the only output
      have hlen : outs.length ≤ 1 := by
        rw [← houtsEq]
        split <;> simp
      have hnil : outs₁ = [] := by
        rw [heq, length_append, length_cons] at hlen
        exact length_eq_zero_iff.mp (by omega)
      simp [hnil]
    · intro name' hname'
      rw [outsOf_append_entry] at hname'
      rcases mem_append.mp hname' with hname' | hname'
      · exact h.handlers name' hname'
      · cases houts _ hname'
    · exact h.optIn
    · intro name'
      rw [registered_append_entry_of_none]
      · exact h.registered name'
      · intro o ho
        rw [houts o ho]
        rfl
    · intro name' hname'
      change (s.mTerrestrialFixReqs.erase name).find? name' ≠ none at hname'
      rw [herase] at hname'
      by_cases heq : name' = name
      · simp [heq] at hname'
      · rw [if_neg heq] at hname'
        refine (h.requested name' hname').append_entry _ fun o ho ↦ ?_
        rw [houts o ho, requestReading, if_neg (Ne.symm heq)]
    · intro name' hname'
      change (s.mTerrestrialFixReqs.erase name).find? name' = some false at hname'
      rw [herase] at hname'
      split at hname'
      · cases hname'
      · next hne =>
        have hmem := h.timers name' hname'
        rw [htimeouts] at hmem
        exact (mem_cons.mp hmem).resolve_left hne
    · intro name' hname'
      obtain ⟨hnone, hold | ⟨hrequest, -⟩⟩ := unanswered_append_entry hname'
      · obtain ⟨hin, hclient⟩ := h.unanswered name' hold
        have hne : name' ≠ name := by
          rintro rfl
          refine hnone (.sendTerrestrialFix name' .timeout) ?_ (Or.inl ⟨_, rfl⟩)
          rw [← houtsEq, if_pos hclient]
          exact mem_singleton_self _
        refine ⟨?_, hclient⟩
        change (s.mTerrestrialFixReqs.erase name).find? name' ≠ none
        rwa [herase, if_neg hne]
      · cases hrequest

/-- A fix that finds all names registered answers each request once. -/
theorem Kept.onGtpWwanTrackingCallback {hasLatLong : Bool}
    (hguard : s.Guard (.onGtpWwanTrackingCallback hasLatLong)) :
    Kept (hist ++ entry (.onGtpWwanTrackingCallback hasLatLong)
      (s.onGtpWwanTrackingCallback hasLatLong).2) (s.onGtpWwanTrackingCallback hasLatLong).1 := by
  by_cases hfix : s.mTerrestrialFixReqs.size ≠ 0 ∧ hasLatLong ∧ s.mOptInTerrestrialService = 1
  · have hnames : (s.mTerrestrialFixReqs.entries.map fun it ↦
        if it.1 ∈ s.mClients then TerrestrialOutput.sendTerrestrialFix it.1 .success
        else .missingHandler it.1) =
        (s.mTerrestrialFixReqs.entries.map Prod.fst).map (.sendTerrestrialFix · .success) := by
      rw [map_map]
      exact map_congr_left fun it hit ↦ if_pos (hguard hfix.2.1 it hit)
    have hnodup := OrderedMap.nodup_keys (m := s.mTerrestrialFixReqs)
    have hkeys : ∀ name, name ∈ s.mTerrestrialFixReqs.entries.map Prod.fst ↔
        s.mTerrestrialFixReqs.find? name ≠ none := by
      intro name
      rw [Ne, OrderedMap.find?_eq_none_iff, mem_map]
      push Not
      rfl
    rw [TerrestrialService.onGtpWwanTrackingCallback, if_pos hfix, hnames]
    generalize s.mTerrestrialFixReqs.entries.map Prod.fst = names at hnodup hkeys
    have houts : ∀ o ∈ names.map (TerrestrialOutput.sendTerrestrialFix · .success) ++
        [.stopNetworkLocation], (∃ name ∈ names, o = .sendTerrestrialFix name .success) ∨
          o = .stopNetworkLocation := by
      intro o ho
      rcases mem_append.mp ho with ho | ho
      · obtain ⟨name, hname, rfl⟩ := mem_map.mp ho
        exact Or.inl ⟨name, hname, rfl⟩
      · exact Or.inr (mem_singleton.mp ho)
    constructor
    · rw [networkRunning_append_entry, map_append, latest_append, map_singleton,
        latest_singleton, networkReading, some_or, some_or]
      simp [OrderedMap.size, OrderedMap.empty]
    · refine always_answersRequest_append h.answers fun outs₁ name err outs₂ heq ↦ ?_
      change names.map (TerrestrialOutput.sendTerrestrialFix · .success) ++
        [TerrestrialOutput.stopNetworkLocation] = _ at heq
      have hmem : TerrestrialOutput.sendTerrestrialFix name err ∈
          names.map (TerrestrialOutput.sendTerrestrialFix · .success) ++ [.stopNetworkLocation] := by
        rw [heq]
        simp
      obtain ⟨name', hname', hsend⟩ := (houts _ hmem).resolve_right (by simp)
      obtain ⟨rfl, rfl⟩ := TerrestrialOutput.sendTerrestrialFix.inj hsend
      refine ⟨h.requested name ((hkeys name).mp hname'), Or.inl rfl, fun o ho ↦ ?_⟩
      -- the names before it are other ones
      have hpairs : (names.map (TerrestrialOutput.sendTerrestrialFix · .success) ++
          [TerrestrialOutput.stopNetworkLocation]).Nodup := by
        refine nodup_append'.mpr ⟨hnodup.map fun a b hab ↦ ?_, nodup_singleton _, ?_⟩
        · exact (TerrestrialOutput.sendTerrestrialFix.inj hab).1
        · intro o ho ho'
          obtain ⟨_, -, rfl⟩ := mem_map.mp ho
          cases mem_singleton.mp ho'
      rw [heq] at hpairs houts
      rcases houts o (mem_append_left _ ho) with ⟨name', -, rfl⟩ | rfl
      · rw [requestReading, if_neg]
        rintro rfl
        exact (nodup_append'.mp hpairs).2.2 ho mem_cons_self
      · rfl
    · intro name hname
      rw [outsOf_append_entry] at hname
      rcases mem_append.mp hname with hname | hname
      · exact h.handlers name hname
      · rcases houts _ hname with ⟨_, -, heq⟩ | heq <;> cases heq
    · exact h.optIn
    · intro name
      rw [registered_append_entry_of_none]
      · exact h.registered name
      · intro o ho
        rcases houts o ho with ⟨_, -, rfl⟩ | rfl <;> rfl
    · exact fun name hname ↦ absurd rfl hname
    · exact fun name hname ↦ by cases hname
    · intro name hname
      obtain ⟨hnone, hold | ⟨hrequest, -⟩⟩ := unanswered_append_entry hname
      · have hin := (hkeys name).mpr (h.unanswered name hold).1
        exact absurd (Or.inl ⟨_, rfl⟩)
          (hnone (.sendTerrestrialFix name .success) (mem_append_left _
            (mem_map_of_mem hin)))
      · cases hrequest
  · rw [TerrestrialService.onGtpWwanTrackingCallback, if_neg hfix]
    exact h.idle (by simp)

theorem Kept.step (hguard : s.Guard e) (hstep : s.step e = some (s', outs)) :
    Kept (hist ++ entry e outs) s' := by
  cases e with
  | newClient name =>
    obtain ⟨rfl, rfl⟩ := some_pair_inj hstep
    exact h.newClient name
  | deleteClient name =>
    obtain ⟨rfl, rfl⟩ := some_pair_inj hstep
    exact h.deleteClientbyName hguard
  | getSingleTerrestrialPos name =>
    obtain ⟨rfl, rfl⟩ := some_pair_inj hstep
    exact h.getSingleTerrestrialPos name
  | timeOutCallback name =>
    simp only [TerrestrialService.step] at hstep
    split at hstep
    · next hname =>
      obtain ⟨rfl, rfl⟩ := some_pair_inj hstep
      exact h.timeOutCallback hname
    · cases hstep
  | gtpFixRequestTimeout =>
    simp only [TerrestrialService.step] at hstep
    split at hstep
    · cases hstep
    · next name timeouts htimeouts =>
      obtain ⟨rfl, rfl⟩ := some_pair_inj hstep
      exact h.gtpFixRequestTimeout htimeouts hguard
  | onGtpWwanTrackingCallback hasLatLong =>
    obtain ⟨rfl, rfl⟩ := some_pair_inj hstep
    exact h.onGtpWwanTrackingCallback hguard

/-! ### The steps that do not keep the law -/

/-- The number of requests after a time-out was compared with one: it stops the session for the
request that is left, and does not stop it after the last one. -/
theorem Kept.not_law_gtpFixRequestTimeout {timeouts : List SocketName}
    (htimeouts : s.timeouts = name :: timeouts) (hguard : ¬s.Guard .gtpFixRequestTimeout) :
    ¬TerrestrialLaw
      (hist ++ entry .gtpFixRequestTimeout ({ s with timeouts }.gtpFixRequestTimeout name).2)
      ({ s with timeouts }.gtpFixRequestTimeout name).1 := by
  have hbad : s.mTerrestrialFixReqs.find? name ≠ none ∧ s.mTerrestrialFixReqs.size < 3 := by
    simpa [Guard, htimeouts] using hguard
  obtain ⟨timer, hfind⟩ := ne_none_iff_exists'.mp hbad.1
  have hsize := size_erase_of_find? hfind
  have hrunning : NetworkRunning hist := h.network.mpr (by omega)
  simp only [TerrestrialService.gtpFixRequestTimeout, hfind]
  intro hlaw
  have hnetwork := hlaw.network
  rw [networkRunning_append_entry] at hnetwork
  change _ ↔ (s.mTerrestrialFixReqs.erase name).size ≠ 0 at hnetwork
  by_cases hone : (s.mTerrestrialFixReqs.erase name).size = 1
  · -- one request is left, and the session is stopped
    rw [if_pos hone, map_append, latest_append, map_singleton, latest_singleton,
      networkReading, some_or, some_or, hone] at hnetwork
    simp at hnetwork
  · -- none is left, and the session goes on
    have hzero : (s.mTerrestrialFixReqs.erase name).size = 0 := by omega
    have hnone : latest networkReading ((if name ∈ s.mClients then
        [TerrestrialOutput.sendTerrestrialFix name .timeout] else []).map Item.out) = none := by
      split <;> rfl
    rw [if_neg hone, List.append_nil, hnone, none_or, hzero] at hnetwork
    exact hnetwork.mp hrunning rfl

/-- The last request goes with its client, and nothing stops the session. -/
theorem Kept.not_law_deleteClientbyName (hguard : ¬s.Guard (.deleteClient name)) :
    ¬TerrestrialLaw (hist ++ entry (.deleteClient name) (s.deleteClientbyName name).2)
      (s.deleteClientbyName name).1 := by
  have hbad : name ∈ s.mClients ∧ s.mTerrestrialFixReqs.find? name ≠ none ∧
      s.mTerrestrialFixReqs.size = 1 := by simpa [Guard] using hguard
  obtain ⟨hname, hreq, hone⟩ := hbad
  obtain ⟨timer, hfind⟩ := ne_none_iff_exists'.mp hreq
  have hsize := size_erase_of_find? hfind
  have hrunning : NetworkRunning hist := h.network.mpr (by omega)
  rw [TerrestrialService.deleteClientbyName, if_pos hname]
  intro hlaw
  have hnetwork := hlaw.network
  rw [networkRunning_append_entry] at hnetwork
  change _ ↔ (s.mTerrestrialFixReqs.erase name).size ≠ 0 at hnetwork
  exact hnetwork.mp hrunning (by omega)

/-- The name of a request that is not registered is answered through a missing handler. -/
theorem Kept.not_law_onGtpWwanTrackingCallback {hasLatLong : Bool}
    (hguard : ¬s.Guard (.onGtpWwanTrackingCallback hasLatLong)) :
    ¬TerrestrialLaw (hist ++ entry (.onGtpWwanTrackingCallback hasLatLong)
      (s.onGtpWwanTrackingCallback hasLatLong).2) (s.onGtpWwanTrackingCallback hasLatLong).1 := by
  simp only [Guard, not_forall, exists_prop] at hguard
  obtain ⟨hlatLong, it, hit, hname⟩ := hguard
  have hsize : s.mTerrestrialFixReqs.size ≠ 0 := length_pos_of_mem hit |>.ne'
  rw [TerrestrialService.onGtpWwanTrackingCallback, if_pos ⟨hsize, hlatLong, h.optIn⟩]
  intro hlaw
  refine hlaw.handlers it.1 ?_
  rw [outsOf_append_entry]
  refine mem_append_right _ (mem_append_left _ ?_)
  exact mem_map.mpr ⟨it, hit, if_neg hname⟩

theorem Kept.guard_of_law (hstep : s.step e = some (s', outs))
    (hlaw : TerrestrialLaw (hist ++ entry e outs) s') : s.Guard e := by
  by_contra hguard
  cases e with
  | newClient _ | getSingleTerrestrialPos _ | timeOutCallback _ => exact hguard trivial
  | deleteClient name =>
    obtain ⟨rfl, rfl⟩ := some_pair_inj hstep
    exact h.not_law_deleteClientbyName hguard hlaw
  | gtpFixRequestTimeout =>
    simp only [TerrestrialService.step] at hstep
    split at hstep
    · cases hstep
    · next name timeouts htimeouts =>
      obtain ⟨rfl, rfl⟩ := some_pair_inj hstep
      exact h.not_law_gtpFixRequestTimeout htimeouts hguard hlaw
  | onGtpWwanTrackingCallback hasLatLong =>
    obtain ⟨rfl, rfl⟩ := some_pair_inj hstep
    exact h.not_law_onGtpWwanTrackingCallback hguard hlaw

/-! ### The runs -/

end

/-- The law holds after every run whose time-outs leave two requests at least, whose removals are not
of the last request and whose fixes find all names registered; and it holds after one more step only
if that step is such a one, too. -/
theorem law_of_run (h : Run step Guard start hist s) :
    TerrestrialLaw hist s ∧ ∀ e s' outs, s.step e = some (s', outs) →
      (TerrestrialLaw (hist ++ entry e outs) s' ↔ s.Guard e) := by
  have hkept : Kept hist s := h.invariant kept_start fun hinv hguard hstep ↦ hinv.step hguard hstep
  exact ⟨hkept.law, fun e s' outs hstep ↦
    ⟨hkept.guard_of_law hstep, fun hguard ↦ (hkept.step hguard hstep).law⟩⟩

/-- Three clients, one of which asks twice; a time-out, the removal of a client, a name that registers
after its request, and a fix for the others. -/
theorem law_of_run_fix : ∃ hist s, Run step Guard start hist s ∧ TerrestrialLaw hist s ∧
    .out (.sendTerrestrialFix 1 .timeout) ∈ hist ∧ .out (.sendTerrestrialFix 3 .success) ∈ hist ∧
    s.mTerrestrialFixReqs.size = 0 := by
  obtain ⟨hist, s, hrun, htimeout, hfix, hsize⟩ := Run.exists_of_runEvents step Guard start
    [.newClient 1, .newClient 2, .newClient 3, .getSingleTerrestrialPos 1,
      .getSingleTerrestrialPos 2, .getSingleTerrestrialPos 1, .getSingleTerrestrialPos 3,
      .timeOutCallback 1, .gtpFixRequestTimeout, .getSingleTerrestrialPos 4, .deleteClient 2,
      .newClient 4, .onGtpWwanTrackingCallback false, .onGtpWwanTrackingCallback true]
    (fun hist s ↦ .out (.sendTerrestrialFix 1 .timeout) ∈ hist ∧
      .out (.sendTerrestrialFix 3 .success) ∈ hist ∧ s.mTerrestrialFixReqs.size = 0)
    (by decide +kernel)
  exact ⟨hist, s, hrun, (law_of_run hrun).1, htimeout, hfix, hsize⟩

/-- The only request times out, and the session goes on. -/
theorem not_terrestrial_law : ¬∀ (hist : List TerrestrialItem) (s : TerrestrialService),
    Run step (fun _ _ ↦ True) start hist s → TerrestrialLaw hist s := by
  intro h
  obtain ⟨hist, s, hrun, hrunning, hsize⟩ := Run.exists_of_runEvents step (fun _ _ ↦ True) start
    [.newClient 1, .getSingleTerrestrialPos 1, .timeOutCallback 1, .gtpFixRequestTimeout]
    (fun hist s ↦ latest networkReading hist = some true ∧ s.mTerrestrialFixReqs.size = 0)
    (by decide +kernel)
  exact (h hist s hrun).network.mp hrunning hsize

end TerrestrialService

end MataDevice.HalDaemon
