import MataDevice.Integration.Effects
import MataDevice.Lib.History

/-!
# Acknowledging requests

A run of the client together with the daemon and with what is on its way to the client. The daemon
keeps the requests that it received until it answers them; when it is restarted they are lost, and
it says that it is ready. Each call has a number, and what should be reported of it is known once it
was answered, lost, or not sent.

Answers are counted by type only, so the callback has the answers of a type in the order in which
they come. The law here is that they are those of the calls of the type in their order. It is broken
by what is sent again, which is counted like a call, and, as long as another request of the type
waits, by a request that cannot be sent, by an answer out of order, or by a request that the
restarted daemon receives before the client knows that it was restarted. The invariant splits the
calls of a type in those that are settled and those that the daemon has to answer.
-/

namespace MataDevice.Integration

open List
open PbMsgConv (LocationError)

variable {ρ : Type}

/-! ## The client and the daemon -/

/-- What is on its way to the client -/
inductive Message
  | halReady
  | response (msgId : ELocMsgID) (err : LocationError)
  deriving DecidableEq, Repr

structure System (ρ : Type) where
  api : Api ρ
  /-- The requests the daemon has, each with the number of its call if there was one -/
  received : List (ELocMsgID × Option ℕ)
  link : List Message
  calls : List LocConfigType
  /-- What should be reported of the call with a number -/
  outcome : ℕ → Option LocIntegrationResponse

inductive Event (ρ : Type)
  | call (req : Request ρ) (rc : Bool)
  | listenerReady (rc : Bool)
  | answer (i : ℕ) (err : LocationError)
  | restart
  | deliver (rc : Bool) (sends : Request ρ → Bool)

namespace System

def init [Zero ρ] (cbs : LocIntegrationCbs) : System ρ := ⟨.init cbs, [], [], [], fun _ ↦ none⟩

/-- What should be reported of the requests with a number -/
def settle (outcome : ℕ → Option LocIntegrationResponse) (numbers : List (Option ℕ))
    (response : LocIntegrationResponse) (n : ℕ) : Option LocIntegrationResponse :=
  if some n ∈ numbers then some response else outcome n

def step (s : System ρ) : Event ρ → Option (System ρ × List (Output ρ))
  | .call req rc =>
    let (api, outs) := s.api.call req rc
    let n := s.calls.length
    some ({ s with
      api := api
      received := s.received ++ (sentOf outs).map fun msg ↦ (msg.msgId, some n)
      calls := s.calls ++ [req.type]
      outcome := if (sentOf outs).isEmpty then settle s.outcome [some n] .failure
        else s.outcome }, outs)
  | .listenerReady rc => some ({ s with api := s.api.sendClientRegMsgToHalDaemon rc }, [])
  | .answer i err =>
    match s.received[i]? with
    | none => none
    | some (msgId, n) =>
      some ({ s with
        received := s.received.eraseIdx i
        link := s.link ++ [.response msgId err]
        outcome := settle s.outcome [n] (getLocIntegrationResponse err) }, [])
  | .restart =>
    some ({ s with
      received := []
      link := s.link ++ [.halReady]
      outcome := settle s.outcome (s.received.map Prod.snd) .failure }, [])
  | .deliver rc sends =>
    match s.link with
    | [] => none
    | .halReady :: link =>
      let (api, outs) := s.api.processHalReadyMsg rc sends
      some ({ s with
        api := api
        received := s.received ++ (sentOf outs).map fun msg ↦ (msg.msgId, none)
        link := link }, outs)
    | .response msgId err :: link =>
      let (api, outs) := s.api.processConfigRespCb msgId err
      some ({ s with api := api, link := link }, outs)

theorem step_call (s : System ρ) (req : Request ρ) (rc : Bool) :
    s.step (.call req rc) = some ({ s with
      api := (s.api.call req rc).1
      received := s.received ++
        (sentOf (s.api.call req rc).2).map fun msg ↦ (msg.msgId, some s.calls.length)
      calls := s.calls ++ [req.type]
      outcome := if (sentOf (s.api.call req rc).2).isEmpty then
          settle s.outcome [some s.calls.length] .failure
        else s.outcome }, (s.api.call req rc).2) :=
  rfl

/-- Nothing is on its way, and the daemon has nothing to answer. -/
def Settled (s : System ρ) : Prop := s.link = [] ∧ s.received = []

end System

/-! ## What is reported of a type -/

section Reading

variable (T : LocConfigType)

/-- The numbers of the calls of the type -/
def numbersOf (calls : List LocConfigType) : List ℕ :=
  (List.range calls.length).filter fun n ↦ calls[n]? = some T

/-- The numbers of the requests of the type that the daemon has -/
def pendingOf (received : List (ELocMsgID × Option ℕ)) : List (Option ℕ) :=
  (received.filter fun x ↦ getLocConfigTypeFromMsgId x.1 = T).map Prod.snd

/-- The answers for the type that are on their way -/
def responsesOf (link : List Message) : List LocIntegrationResponse :=
  link.filterMap fun
    | .halReady => none
    | .response msgId err =>
      if getLocConfigTypeFromMsgId msgId = T then some (getLocIntegrationResponse err) else none

/-- A step that does not break the order of the answers for the type. -/
def Orderly (s : System ρ) : Event ρ → Prop
  | .call req rc =>
    req.type = T → s.api.accepts req = true ∧
      if s.api.mHalRegistered && rc then .halReady ∉ s.link else s.api.cnt T = 0
  | .answer i _ =>
    ∀ x ∈ s.received[i]?.toList, getLocConfigTypeFromMsgId x.1 = T →
      pendingOf T (s.received.take i) = []
  | .deliver _ _ => s.link.head? = some .halReady → ∀ m ∈ s.api.cached, m.1 ≠ T
  | _ => True

instance (s : System ρ) (e : Event ρ) : Decidable (Orderly T s e) :=
  match e with
  | .call req rc => inferInstanceAs (Decidable (_ → _))
  | .answer i _ => inferInstanceAs (Decidable (∀ x ∈ s.received[i]?.toList, _))
  | .deliver _ _ => inferInstanceAs (Decidable (_ → _))
  | .listenerReady _ => isTrue trivial
  | .restart => isTrue trivial

end Reading

section Lemmas

variable {T : LocConfigType}

theorem numbersOf_concat (calls : List LocConfigType) (T' : LocConfigType) :
    numbersOf T (calls ++ [T']) = numbersOf T calls ++ if T' = T then [calls.length] else [] := by
  rw [numbersOf, length_append, length_singleton, range_succ, filter_append]
  congr 1
  · refine filter_congr fun n hn ↦ ?_
    rw [getElem?_append_left (mem_range.mp hn)]
  · by_cases hT : T' = T <;> simp [hT]

theorem mem_numbersOf {calls : List LocConfigType} {n : ℕ} :
    n ∈ numbersOf T calls ↔ calls[n]? = some T := by
  rw [numbersOf, mem_filter, mem_range, decide_eq_true_iff]
  refine and_iff_right_of_imp fun h ↦ ?_
  exact (List.getElem?_eq_some_iff.mp h).1

theorem nodup_numbersOf (calls : List LocConfigType) : (numbersOf T calls).Nodup :=
  nodup_range.filter _

theorem pendingOf_append (received received' : List (ELocMsgID × Option ℕ)) :
    pendingOf T (received ++ received') = pendingOf T received ++ pendingOf T received' := by
  rw [pendingOf, filter_append, map_append]
  rfl

variable {x : ELocMsgID × Option ℕ}

theorem pendingOf_singleton_of_eq
    (hT : getLocConfigTypeFromMsgId x.1 = T) : pendingOf T [x] = [x.2] := by
  simp [pendingOf, hT]

theorem pendingOf_singleton_of_ne
    (hT : getLocConfigTypeFromMsgId x.1 ≠ T) : pendingOf T [x] = [] := by
  simp [pendingOf, hT]

/-- One of the requests is taken away. -/
theorem pendingOf_eraseIdx {received : List (ELocMsgID × Option ℕ)} {i : ℕ} (hx : received[i]? = some x) :
    pendingOf T received = pendingOf T (received.take i) ++ pendingOf T [x] ++
        pendingOf T (received.drop (i + 1)) ∧
      pendingOf T (received.eraseIdx i) =
        pendingOf T (received.take i) ++ pendingOf T (received.drop (i + 1)) := by
  obtain ⟨hi, rfl⟩ := List.getElem?_eq_some_iff.mp hx
  constructor
  · rw [← pendingOf_append, ← pendingOf_append, append_assoc, singleton_append,
      ← drop_eq_getElem_cons hi, take_append_drop]
  · rw [eraseIdx_eq_take_drop_succ, pendingOf_append]

theorem responsesOf_append (link link' : List Message) :
    responsesOf T (link ++ link') = responsesOf T link ++ responsesOf T link' :=
  filterMap_append

variable {outcome : ℕ → Option LocIntegrationResponse} {numbers : List (Option ℕ)}
  {response : LocIntegrationResponse}

/-- What is said of other numbers changes nothing. -/
theorem map_settle_of_not_mem {l : List ℕ} (h : ∀ n ∈ l, some n ∉ numbers) :
    l.map (System.settle outcome numbers response) = l.map outcome :=
  map_congr_left fun n hn ↦ if_neg (h n hn)

theorem map_settle_of_mem {l : List ℕ} (h : ∀ n ∈ l, some n ∈ numbers) :
    l.map (System.settle outcome numbers response) =
      List.replicate l.length (some response) := by
  rw [eq_replicate_iff]
  refine ⟨length_map _, fun r hr ↦ ?_⟩
  obtain ⟨n, hn, rfl⟩ := mem_map.mp hr
  exact if_pos (h n hn)

end Lemmas

/-! ## The invariant -/

/-- The calls of a type are those that are settled and those the daemon has to answer. Of the ones
that are settled the callback knows the first, the answers to the next are on their way, and the
last are lost. -/
structure Split (T : LocConfigType) (outs : List (Output ρ)) (s : System ρ) (settled pend : List ℕ)
    (lost : ℕ) : Prop where
  configCb : s.api.mIntegrationCbs.configCb = true
  type_of_received : ∀ msgId n, (msgId, some n) ∈ s.received →
    s.calls[n]? = some (getLocConfigTypeFromMsgId msgId)
  numbers : numbersOf T s.calls = settled ++ pend
  pending : pendingOf T s.received = pend.map some
  outcomes : settled.map s.outcome =
    (callbacksOf T outs ++ responsesOf T s.link ++
      List.replicate lost LocIntegrationResponse.failure).map some
  cnt : s.api.cnt T = (responsesOf T s.link).length + lost + pend.length
  /-- Behind the message that the daemon is ready there is no answer for the type. -/
  ready : s.link.Pairwise fun m m' ↦ m = .halReady → responsesOf T [m'] = []
  lost_eq : .halReady ∉ s.link → lost = 0
  pend_eq : .halReady ∈ s.link → pend = []

namespace Split

variable {T : LocConfigType} {outs : List (Output ρ)} {s : System ρ} {settled pend : List ℕ}
  {lost : ℕ}

theorem init [Zero ρ] {cbs : LocIntegrationCbs} (hcb : cbs.configCb = true) :
    Split T [] (System.init cbs : System ρ) [] [] 0 where
  configCb := hcb
  type_of_received _ _ h := nomatch h
  numbers := rfl
  pending := rfl
  outcomes := rfl
  cnt := rfl
  ready := .nil
  lost_eq _ := rfl
  pend_eq _ := rfl

variable (h : Split T outs s settled pend lost)
include h

/-- A number that is settled is not one the daemon has. -/
theorem not_mem_received {n : ℕ} (hn : n ∈ settled) :
    some n ∉ s.received.map Prod.snd := by
  intro hmem
  obtain ⟨⟨msgId, n'⟩, hx, rfl⟩ := mem_map.mp hmem
  have hcall : s.calls[n]? = some T :=
    mem_numbersOf.mp (h.numbers ▸ mem_append_left _ hn)
  have htype := h.type_of_received msgId n hx
  rw [hcall, Option.some_inj] at htype
  have hpend : some n ∈ pend.map some := by
    rw [← h.pending, pendingOf]
    refine mem_map.mpr ⟨_, mem_filter.mpr ⟨hx, ?_⟩, rfl⟩
    exact decide_eq_true htype.symm
  obtain ⟨n', hn', heq⟩ := mem_map.mp hpend
  obtain rfl := Option.some_inj.mp heq
  have hnodup := nodup_numbersOf (T := T) s.calls
  rw [h.numbers] at hnodup
  exact disjoint_of_nodup_append hnodup hn hn'

theorem lt_of_mem {n : ℕ} (hn : n ∈ settled) :
    n < s.calls.length :=
  (List.getElem?_eq_some_iff.mp
    (mem_numbersOf.mp (h.numbers ▸ mem_append_left _ hn))).1

/-- The daemon is restarted: what it has is lost. -/
theorem restart :
    Split T outs { s with
      received := []
      link := s.link ++ [.halReady]
      outcome := System.settle s.outcome (s.received.map Prod.snd) .failure }
      (settled ++ pend) [] (lost + pend.length) where
  configCb := h.configCb
  type_of_received _ _ hx := nomatch hx
  numbers := h.numbers.trans (List.append_nil _).symm
  pending := rfl
  outcomes := by
    have hpend : ∀ n ∈ pend, some n ∈ s.received.map Prod.snd := by
      intro n hn
      have hmem : some n ∈ pendingOf T s.received := h.pending ▸ mem_map_of_mem hn
      obtain ⟨x, hx, hxn⟩ := mem_map.mp hmem
      exact mem_map.mpr ⟨x, (mem_filter.mp hx).1, hxn⟩
    rw [map_append, map_settle_of_not_mem fun n hn ↦ h.not_mem_received hn,
      map_settle_of_mem hpend, h.outcomes, responsesOf_append, replicate_add]
    simp [responsesOf]
  cnt := by
    rw [h.cnt, responsesOf_append]
    simp [responsesOf]
    omega
  ready := pairwise_append.mpr ⟨h.ready, pairwise_singleton _ _, fun m _ m' hm' _ ↦ by
    rw [mem_singleton.mp hm']
    rfl⟩
  lost_eq hready := absurd (mem_append_right _ (mem_singleton.mpr rfl)) hready
  pend_eq _ := rfl

theorem type_of_received_call (req : Request ρ) (rc : Bool) (msgId : ELocMsgID) (n : ℕ)
    (hx : (msgId, some n) ∈ s.received ++
      (sentOf (s.api.call req rc).2).map fun msg ↦ (msg.msgId, some s.calls.length)) :
    (s.calls ++ [req.type])[n]? = some (getLocConfigTypeFromMsgId msgId) := by
  rcases mem_append.mp hx with hx | hx
  · have hcall := h.type_of_received msgId n hx
    rwa [getElem?_append_left (List.getElem?_eq_some_iff.mp hcall).1]
  · obtain ⟨msg, hmsg, heq⟩ := mem_map.mp hx
    obtain ⟨rfl, hn⟩ := Prod.mk.inj heq
    obtain rfl := Option.some_inj.mp hn
    have hreq : msg = req := by
      rw [Api.sentOf_call _ _ h.configCb] at hmsg
      split at hmsg
      · exact mem_singleton.mp hmsg
      · cases hmsg
    rw [hreq]
    simp [Request.type]

variable {req : Request ρ} {rc : Bool} {msgId : ELocMsgID}

/-- A call of another type -/
theorem call_of_ne (hT : req.type ≠ T) {outcome : ℕ → Option LocIntegrationResponse}
    (houtcome : ∀ n < s.calls.length, outcome n = s.outcome n) :
    Split T (outs ++ (s.api.call req rc).2) { s with
      api := (s.api.call req rc).1
      received := s.received ++
        (sentOf (s.api.call req rc).2).map fun msg ↦ (msg.msgId, some s.calls.length)
      calls := s.calls ++ [req.type]
      outcome := outcome } settled pend lost where
  configCb := by
    rw [Api.call_frame.2]
    exact h.configCb
  type_of_received := h.type_of_received_call req rc
  numbers := by
    rw [numbersOf_concat, if_neg hT, List.append_nil]
    exact h.numbers
  pending := by
    have hsent : pendingOf T ((sentOf (s.api.call req rc).2).map fun msg ↦
        (msg.msgId, some s.calls.length)) = [] := by
      rw [Api.sentOf_call _ _ h.configCb]
      split
      · exact pendingOf_singleton_of_ne hT
      · rfl
    rw [pendingOf_append, h.pending, hsent, List.append_nil]
  outcomes := by
    have hcallbacks : callbacksOf T (s.api.call req rc).2 = [] := by
      rw [Api.callbacksOf_call h.configCb]
      simp [hT]
    rw [map_congr_left fun n hn ↦ houtcome n (h.lt_of_mem hn), h.outcomes,
      callbacksOf_append, hcallbacks, List.append_nil]
  cnt := by
    rw [Api.cnt_call h.configCb]
    simp [Ne.symm hT, h.cnt]
  ready := h.ready
  lost_eq := h.lost_eq
  pend_eq := h.pend_eq

/-- A call of the type that is sent, when the client knows of every restart -/
theorem call_of_sent (hT : req.type = T) (hacc : s.api.accepts req = true)
    (hsent : (s.api.mHalRegistered && rc) = true) (hready : .halReady ∉ s.link) :
    Split T (outs ++ (s.api.call req rc).2) { s with
      api := (s.api.call req rc).1
      received := s.received ++
        (sentOf (s.api.call req rc).2).map fun msg ↦ (msg.msgId, some s.calls.length)
      calls := s.calls ++ [req.type] } settled (pend ++ [s.calls.length]) lost where
  configCb := by
    rw [Api.call_frame.2]
    exact h.configCb
  type_of_received := h.type_of_received_call req rc
  numbers := by
    rw [numbersOf_concat, if_pos hT, h.numbers, append_assoc]
  pending := by
    have hmsg : sentOf (s.api.call req rc).2 = [req] := by
      rw [Api.sentOf_call _ _ h.configCb, hacc, hsent]
      rfl
    rw [pendingOf_append, h.pending, hmsg, map_append]
    exact congrArg _ (pendingOf_singleton_of_eq hT)
  outcomes := by
    have hcallbacks : callbacksOf T (s.api.call req rc).2 = [] := by
      rw [Api.callbacksOf_call h.configCb]
      simp [hsent]
    rw [h.outcomes, callbacksOf_append, hcallbacks, List.append_nil]
  cnt := by
    rw [Api.cnt_call h.configCb, h.cnt]
    simp [hacc, hsent, hT]
    omega
  ready := h.ready
  lost_eq := h.lost_eq
  pend_eq hmem := absurd hmem hready

/-- A call of the type that is not sent, when no other one waits -/
theorem call_of_not_sent (hT : req.type = T) (hacc : s.api.accepts req = true)
    (hsent : (s.api.mHalRegistered && rc) = false) (hcnt : s.api.cnt T = 0) :
    Split T (outs ++ (s.api.call req rc).2) { s with
      api := (s.api.call req rc).1
      received := s.received ++
        (sentOf (s.api.call req rc).2).map fun msg ↦ (msg.msgId, some s.calls.length)
      calls := s.calls ++ [req.type]
      outcome := System.settle s.outcome [some s.calls.length] .failure }
      (settled ++ [s.calls.length]) [] 0 := by
  have hzero := h.cnt.symm.trans hcnt
  have hpend : pend = [] := eq_nil_of_length_eq_zero (by omega)
  have hlost : lost = 0 := by omega
  have hresponses : responsesOf T s.link = [] := eq_nil_of_length_eq_zero (by omega)
  subst hpend
  subst hlost
  exact {
    configCb := by
      rw [Api.call_frame.2]
      exact h.configCb
    type_of_received := h.type_of_received_call req rc
    numbers := by
      rw [numbersOf_concat, if_pos hT, h.numbers, List.append_nil, List.append_nil]
    pending := by
      have hmsg : sentOf (s.api.call req rc).2 = [] := by
        rw [Api.sentOf_call _ _ h.configCb, hsent, Bool.and_false]
        rfl
      rw [hmsg, map_nil, List.append_nil]
      exact h.pending
    outcomes := by
      have hcallbacks : callbacksOf T (s.api.call req rc).2 = [.failure] := by
        rw [Api.callbacksOf_call h.configCb]
        simp [hsent, hacc, hT]
      have hold : ∀ n ∈ settled, some n ∉ [some s.calls.length] := by
        intro n hn hmem
        have heq := Option.some_inj.mp (mem_singleton.mp hmem)
        exact (h.lt_of_mem hn).ne heq
      rw [map_append, map_settle_of_not_mem hold, h.outcomes, callbacksOf_append, hcallbacks,
        hresponses]
      simp [System.settle]
    cnt := by
      rw [Api.cnt_call h.configCb, hcnt]
      simp [hsent, hresponses]
    ready := h.ready
    lost_eq := h.lost_eq
    pend_eq := h.pend_eq }

variable {i : ℕ} {number : Option ℕ} {err : LocationError} {link : List Message}

theorem type_of_received_eraseIdx
    (msgId : ELocMsgID) (n : ℕ) (hx : (msgId, some n) ∈ s.received.eraseIdx i) :
    s.calls[n]? = some (getLocConfigTypeFromMsgId msgId) :=
  h.type_of_received msgId n (mem_of_mem_eraseIdx hx)

/-- An answer to a request of another type -/
theorem answer_of_ne (hx : s.received[i]? = some (msgId, number))
    (hT : getLocConfigTypeFromMsgId msgId ≠ T) :
    Split T outs { s with
      received := s.received.eraseIdx i
      link := s.link ++ [.response msgId err]
      outcome := System.settle s.outcome [number] (getLocIntegrationResponse err) }
      settled pend lost := by
  have hresponse : responsesOf T [.response msgId err] = [] := by simp [responsesOf, hT]
  have hlink : responsesOf T (s.link ++ [.response msgId err]) = responsesOf T s.link := by
    rw [responsesOf_append, hresponse, List.append_nil]
  have hready : .halReady ∈ s.link ++ [.response msgId err] ↔ .halReady ∈ s.link := by simp
  exact {
    configCb := h.configCb
    type_of_received := h.type_of_received_eraseIdx
    numbers := h.numbers
    pending := by
      obtain ⟨hold, hnew⟩ := pendingOf_eraseIdx (T := T) hx
      rw [pendingOf_singleton_of_ne hT, List.append_nil, ← hnew] at hold
      rw [← hold]
      exact h.pending
    outcomes := by
      have hsettled : ∀ n ∈ settled, some n ∉ [number] := by
        intro n hn hmem
        refine h.not_mem_received hn (mem_map.mpr ⟨_, mem_of_getElem? hx, ?_⟩)
        exact (mem_singleton.mp hmem).symm
      rw [map_settle_of_not_mem hsettled, hlink]
      exact h.outcomes
    cnt := by
      rw [hlink]
      exact h.cnt
    ready := pairwise_append.mpr ⟨h.ready, pairwise_singleton _ _,
      fun m _ m' hm' _ ↦ by
        rw [mem_singleton.mp hm']
        exact hresponse⟩
    lost_eq := fun hmem ↦ h.lost_eq fun hin ↦ hmem (hready.mpr hin)
    pend_eq := fun hmem ↦ h.pend_eq (hready.mp hmem) }

/-- An answer to the first request of the type -/
theorem answer_of_eq (err : LocationError) (hx : s.received[i]? = some (msgId, number))
    (hT : getLocConfigTypeFromMsgId msgId = T) (hfirst : pendingOf T (s.received.take i) = []) :
    ∃ n pend', number = some n ∧ pend = n :: pend' ∧
      Split T outs { s with
        received := s.received.eraseIdx i
        link := s.link ++ [.response msgId err]
        outcome := System.settle s.outcome [number] (getLocIntegrationResponse err) }
        (settled ++ [n]) pend' lost := by
  obtain ⟨hold, hnew⟩ := pendingOf_eraseIdx (T := T) hx
  rw [hfirst, pendingOf_singleton_of_eq hT, h.pending, nil_append] at hold
  rw [hfirst, nil_append] at hnew
  cases pend with
  | nil => cases hold
  | cons n pend =>
    obtain ⟨hn, hpend⟩ := cons_eq_cons.mp hold
    obtain rfl : some n = number := hn
    refine ⟨n, pend, rfl, rfl, ?_⟩
    -- the daemon was not restarted, as it has a request of the type
    have hready : .halReady ∉ s.link := fun hmem ↦ cons_ne_nil _ _ (h.pend_eq hmem)
    have hlost : lost = 0 := h.lost_eq hready
    have hresponse : responsesOf T (s.link ++ [.response msgId err]) =
        responsesOf T s.link ++ [getLocIntegrationResponse err] := by
      rw [responsesOf_append]
      simp [responsesOf, hT]
    have hready' : .halReady ∉ s.link ++ [.response msgId err] := by simpa using hready
    exact {
      configCb := h.configCb
      type_of_received := h.type_of_received_eraseIdx
      numbers := by
        rw [h.numbers, append_assoc]
        rfl
      pending := hnew.trans hpend.symm
      outcomes := by
        have hsettled : ∀ m ∈ settled, some m ∉ [some n] := by
          intro m hm hmem
          refine h.not_mem_received hm (mem_map.mpr ⟨_, mem_of_getElem? hx, ?_⟩)
          exact (mem_singleton.mp hmem).symm
        rw [map_append, map_settle_of_not_mem hsettled, h.outcomes, hresponse, hlost]
        simp [System.settle]
      cnt := by
        rw [h.cnt, hresponse]
        simp
        omega
      ready := pairwise_append.mpr ⟨h.ready, pairwise_singleton _ _,
        fun m hm m' _ heq ↦ absurd (heq ▸ hm) hready⟩
      lost_eq := fun _ ↦ hlost
      pend_eq := fun hmem ↦ absurd hmem hready' }

/-- The client gets an answer. -/
theorem deliver_response (hlink : s.link = .response msgId err :: link) :
    Split T (outs ++ (s.api.processConfigRespCb msgId err).2) { s with
      api := (s.api.processConfigRespCb msgId err).1
      link := link } settled pend lost := by
  obtain ⟨map, hmap⟩ := Api.onlyCounts_processConfigRespCb s.api msgId err
  have houts := Api.outs_processConfigRespCb h.configCb msgId err
  have hcnt := Api.cnt_processConfigRespCb (T := T) h.configCb msgId err
  have hold := h.cnt
  have hmem : .halReady ∈ link ↔ .halReady ∈ s.link := by simp [hlink]
  have hkept : callbacksOf T (outs ++ (s.api.processConfigRespCb msgId err).2) ++
        responsesOf T link = callbacksOf T outs ++ responsesOf T s.link ∧
      (s.api.processConfigRespCb msgId err).1.cnt T =
        (responsesOf T link).length + lost + pend.length := by
    by_cases hT : getLocConfigTypeFromMsgId msgId = T
    · have hresponses : responsesOf T s.link =
          getLocIntegrationResponse err :: responsesOf T link := by
        rw [hlink]
        simp [responsesOf, hT]
      rw [hresponses, length_cons] at hold
      rw [hT, if_pos (by omega)] at houts
      rw [if_pos hT.symm] at hcnt
      refine ⟨?_, by omega⟩
      rw [houts, callbacksOf_append, hresponses, callbacksOf_singleton, if_pos rfl]
      simp
    · have hresponses : responsesOf T s.link = responsesOf T link := by
        rw [hlink]
        simp [responsesOf, hT]
      rw [if_neg (Ne.symm hT)] at hcnt
      refine ⟨?_, by rw [hcnt, ← hresponses]; exact hold⟩
      have hnone : callbacksOf T (s.api.processConfigRespCb msgId err).2 = [] := by
        rw [houts]
        split
        · rw [callbacksOf_singleton, if_neg hT]
        · rfl
      rw [callbacksOf_append, hnone, List.append_nil, hresponses]
  exact {
    configCb := by
      rw [hmap]
      exact h.configCb
    type_of_received := h.type_of_received
    numbers := h.numbers
    pending := h.pending
    outcomes := by
      rw [hkept.1]
      exact h.outcomes
    cnt := hkept.2
    ready := (pairwise_cons.mp (hlink ▸ h.ready)).2
    lost_eq := fun hready ↦ h.lost_eq fun hin ↦ hready (hmem.mpr hin)
    pend_eq := fun hready ↦ h.pend_eq (hmem.mp hready) }

/-- The client gets to know that the daemon is ready, and sends nothing of the type again. -/
theorem deliver_halReady {sends : Request ρ → Bool} (hlink : s.link = .halReady :: link)
    (hcached : ∀ m ∈ s.api.cached, m.1 ≠ T) :
    Split T (outs ++ (s.api.processHalReadyMsg rc sends).2) { s with
      api := (s.api.processHalReadyMsg rc sends).1
      received := s.received ++
        (sentOf (s.api.processHalReadyMsg rc sends).2).map fun msg ↦ (msg.msgId, none)
      link := link } settled pend 0 := by
  have hpend : pend = [] := h.pend_eq (hlink ▸ mem_cons_self)
  subst hpend
  have hready := pairwise_cons.mp (hlink ▸ h.ready)
  have hresponses : responsesOf T s.link = [] := by
    rw [responsesOf, filterMap_eq_nil_iff]
    intro m hm
    rw [hlink] at hm
    rcases mem_cons.mp hm with rfl | hm
    · rfl
    · simpa [responsesOf] using hready.1 m hm rfl
  have hlink' : responsesOf T link = [] := by
    rw [hlink] at hresponses
    exact hresponses
  have hlost : s.api.cnt T = lost := by
    rw [h.cnt, hresponses]
    simp
  obtain ⟨again, hcallbacks, hbalance⟩ :=
    Api.balance_processHalReadyMsg (T := T) sends rc h.configCb
  have hnone : s.api.cached.countP (fun m ↦ m.1 = T) = 0 := by
    rw [countP_eq_zero]
    intro m hm
    simpa using hcached m hm
  rw [hnone, Nat.add_eq_zero_iff] at hbalance
  rw [eq_nil_of_length_eq_zero hbalance.1, List.append_nil, hlost] at hcallbacks
  have hsent : ∀ x ∈ (sentOf (s.api.processHalReadyMsg rc sends).2).map fun msg ↦
      (msg.msgId, (none : Option ℕ)), x.2 = none ∧ getLocConfigTypeFromMsgId x.1 ≠ T := by
    intro x hx
    obtain ⟨msg, hmsg, rfl⟩ := mem_map.mp hx
    refine ⟨rfl, ?_⟩
    rw [Api.sentOf_processHalReadyMsg] at hmsg
    split at hmsg
    · obtain ⟨m, hm, rfl⟩ := mem_map.mp (mem_of_mem_filter hmsg)
      change m.2.type ≠ T
      rw [Api.type_of_mem_cached hm]
      exact hcached m hm
    · cases hmsg
  exact {
    configCb := by
      rw [Api.mIntegrationCbs_processHalReadyMsg]
      exact h.configCb
    type_of_received := by
      intro msgId n hx
      rcases mem_append.mp hx with hx | hx
      · exact h.type_of_received msgId n hx
      · cases (hsent _ hx).1
    numbers := h.numbers
    pending := by
      have hfilter : pendingOf T ((sentOf (s.api.processHalReadyMsg rc sends).2).map fun msg ↦
          (msg.msgId, (none : Option ℕ))) = [] := by
        rw [pendingOf, map_eq_nil_iff, filter_eq_nil_iff]
        intro x hx
        simpa using (hsent x hx).2
      rw [pendingOf_append, hfilter, List.append_nil]
      exact h.pending
    outcomes := by
      rw [h.outcomes, callbacksOf_append, hcallbacks, hresponses, hlink']
      simp
    cnt := by
      rw [hbalance.2, hlink']
      rfl
    ready := hready.2
    lost_eq := fun _ ↦ rfl
    pend_eq := fun _ ↦ rfl }

/-- An orderly step keeps the calls of the type split. -/
theorem step {e : Event ρ} {s' : System ρ}
    {outs' : List (Output ρ)} (hg : Orderly T s e) (hstep : s.step e = some (s', outs')) :
    ∃ settled' pend' lost', Split T (outs ++ outs') s' settled' pend' lost' := by
  cases e with
  | call req rc =>
    rw [System.step_call] at hstep
    obtain ⟨rfl, rfl⟩ := some_pair_inj hstep
    by_cases hT : req.type = T
    · obtain ⟨hacc, hsend⟩ := hg hT
      have hmsg := Api.sentOf_call req rc h.configCb
      rw [hacc, Bool.true_and] at hmsg
      by_cases hsent : (s.api.mHalRegistered && rc) = true
      · rw [if_pos hsent] at hsend hmsg
        rw [hmsg]
        have hcall := h.call_of_sent hT hacc hsent hsend
        rw [hmsg] at hcall
        exact ⟨_, _, _, hcall⟩
      · rw [if_neg hsent] at hsend hmsg
        rw [hmsg]
        have hcall := h.call_of_not_sent hT hacc (Bool.eq_false_iff.mpr hsent) hsend
        rw [hmsg] at hcall
        exact ⟨_, _, _, hcall⟩
    · refine ⟨settled, pend, lost, h.call_of_ne hT fun n hn ↦ ?_⟩
      split
      · refine if_neg fun hmem ↦ hn.ne ?_
        exact Option.some_inj.mp (mem_singleton.mp hmem)
      · rfl
  | listenerReady rc =>
    obtain ⟨rfl, rfl⟩ := some_pair_inj hstep
    rw [List.append_nil]
    cases rc with
    | false => exact ⟨_, _, _, h⟩
    | true => exact ⟨settled, pend, lost, { h with }⟩
  | answer i err =>
    simp only [System.step] at hstep
    split at hstep
    · cases hstep
    · next msgId number hx =>
      obtain ⟨rfl, rfl⟩ := some_pair_inj hstep
      rw [List.append_nil]
      by_cases hT : getLocConfigTypeFromMsgId msgId = T
      · have hfirst := hg (msgId, number) (by simp [hx]) hT
        obtain ⟨n, pend', -, -, hsplit⟩ := h.answer_of_eq err hx hT hfirst
        exact ⟨_, _, _, hsplit⟩
      · exact ⟨_, _, _, h.answer_of_ne hx hT⟩
  | restart =>
    obtain ⟨rfl, rfl⟩ := some_pair_inj hstep
    rw [List.append_nil]
    exact ⟨_, _, _, h.restart⟩
  | deliver rc sends =>
    simp only [System.step] at hstep
    split at hstep
    · cases hstep
    · next link hlink =>
      obtain ⟨rfl, rfl⟩ := some_pair_inj hstep
      exact ⟨_, _, _, h.deliver_halReady hlink (hg (by rw [hlink]; rfl))⟩
    · next msgId err link hlink =>
      obtain ⟨rfl, rfl⟩ := some_pair_inj hstep
      exact ⟨_, _, _, h.deliver_response hlink⟩

end Split

/-! ## Runs -/

section Runs

variable [Zero ρ] {cbs : LocIntegrationCbs} {hist : List (Item (Event ρ) (Output ρ))} {s : System ρ}

theorem exists_split (T : LocConfigType) (hcb : cbs.configCb = true)
    (h : Run System.step (Orderly T) (System.init cbs) hist s) :
    ∃ settled pend lost, Split T (outsOf hist) s settled pend lost := by
  refine h.invariant (I := fun hist s ↦ ∃ settled pend lost,
    Split T (outsOf hist) s settled pend lost) ⟨_, _, _, .init hcb⟩ ?_
  rintro hist s e s' outs ⟨settled, pend, lost, ih⟩ hg hstep
  rw [outsOf_append_entry]
  exact ih.step hg hstep

/-- Once everything is processed, the callback had for each call of the type, in their order, what
should be reported of it, and nothing else. -/
theorem acknowledged_of_orderly (T : LocConfigType) (hcb : cbs.configCb = true)
    (h : Run System.step (Orderly T) (System.init cbs) hist s) (hsettled : s.Settled) :
    (callbacksOf T (outsOf hist)).map some = (numbersOf T s.calls).map s.outcome := by
  obtain ⟨settled, pend, lost, hsplit⟩ := exists_split T hcb h
  obtain ⟨hlink, hreceived⟩ := hsettled
  have hpend : pend = [] := by
    have hpending := hsplit.pending
    rw [hreceived] at hpending
    exact map_eq_nil_iff.mp hpending.symm
  have hlost : lost = 0 := hsplit.lost_eq (by rw [hlink]; exact not_mem_nil)
  rw [hsplit.numbers, hpend, List.append_nil, hsplit.outcomes, hlost, hlink]
  simp [responsesOf]

end Runs

/-- All callbacks that can be passed -/
def allCbs : LocIntegrationCbs := ⟨true, true, true, true, true⟩

/-- Of two requests the daemon loses the first when it is restarted. -/
theorem acknowledged_of_orderly_restart :
    ∃ (hist : List (Item (Event Unit) (Output Unit))) (s : System Unit),
      Run System.step (Orderly .getMinGpsWeek) (System.init allCbs) hist s ∧ s.Settled ∧
        callbacksOf .getMinGpsWeek (outsOf hist) = [.failure, .success] ∧
        (callbacksOf .getMinGpsWeek (outsOf hist)).map some =
          (numbersOf .getMinGpsWeek s.calls).map s.outcome := by
  obtain ⟨hist, s, hrun, hlink, hreceived, hcallbacks⟩ :=
    Run.exists_of_runEvents (σ := System Unit) System.step
    (Orderly .getMinGpsWeek) (System.init allCbs)
    [.listenerReady true, .call .getMinGpsWeek true, .restart, .deliver true fun _ ↦ true,
      .call .getMinGpsWeek true, .answer 0 .success, .deliver true fun _ ↦ true]
    (fun hist s ↦ s.link = [] ∧ s.received = [] ∧
      callbacksOf .getMinGpsWeek (outsOf hist) = [.failure, .success]) (by decide +kernel)
  exact ⟨hist, s, hrun, ⟨hlink, hreceived⟩, hcallbacks,
    acknowledged_of_orderly .getMinGpsWeek rfl hrun ⟨hlink, hreceived⟩⟩

/-- What is sent again after a restart is answered as well. -/
theorem not_acknowledged :
    ¬∀ (cbs : LocIntegrationCbs) (T : LocConfigType) (hist : List (Item (Event Unit) (Output Unit)))
      (s : System Unit), cbs.configCb = true →
        Run System.step (fun _ _ ↦ True) (System.init cbs) hist s → s.Settled →
          (callbacksOf T (outsOf hist)).map some = (numbersOf T s.calls).map s.outcome := by
  intro h
  obtain ⟨hist, s, hrun, hlink, hreceived, htwo, hone⟩ :=
    Run.exists_of_runEvents (σ := System Unit) System.step
    (fun _ _ ↦ True) (System.init allCbs)
    [.listenerReady true, .call (.configRobustLocation true true) true, .answer 0 .success,
      .deliver true fun _ ↦ true, .restart, .deliver true fun _ ↦ true, .answer 0 .success,
      .deliver true fun _ ↦ true]
    (fun hist s ↦ s.link = [] ∧ s.received = [] ∧
      (callbacksOf .robustLocation (outsOf hist)).length = 2 ∧
      (numbersOf .robustLocation s.calls).length = 1) (by decide +kernel)
  have heq := congrArg List.length
    (h allCbs .robustLocation hist s rfl hrun ⟨hlink, hreceived⟩)
  rw [length_map, length_map, htwo, hone] at heq
  cases heq

end MataDevice.Integration
