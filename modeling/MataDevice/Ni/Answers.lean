import MataDevice.Ni.Sessions

/-!
# Answers to network initiated requests

Every raw request is in one place: in a message, in a slot, with a thread that has taken it out of
its slot, or given back or freed. And a slot that holds a request is that of the one thread that
waits for it; what was put into the slot since the request was saved is for its id.

Three things break this. A request that nobody can be asked about is dropped. A thread clears the id
and the time of its slot after it has released it, and another request may be there by then. And a
message that has found a request may put a response for it into the slot after the request is gone,
where the next request finds it. The law is about the runs in which the clearing comes in time and
in which no response is left over when a request is saved.
-/

namespace MataDevice.Ni

open List
open Tracking (LocationAPI LocationError)
open Option (some_inj toList_none some_or toList_some)

/-! ## What is read off the record -/

/-- The request that an action disposes of. -/
def Action.disposes : Action → Option Raw
  | .informNiResponse _ raw | .free raw => some raw
  | _ => none

def Action.saveOf (slot : NiSlot) : Action → Option (Raw × ℕ × ℕ)
  | .save slot' raw id timeLeft => if slot' = slot then some (raw, id, timeLeft) else none
  | _ => none

/-- Where the response in a slot comes from. -/
inductive Reason
  | put (cause : Cause)
  | timeOut (timeLeft : ℕ)
  deriving DecidableEq

/-- Nothing that was put into a slot before is for the request that is saved there. -/
def Action.reasonOf (slot : NiSlot) : Action → Option (Option (Reason × GnssNiResponse))
  | .save slot' _ _ _ => if slot' = slot then some none else none
  | .put slot' cause response =>
    if slot' = slot then some (some (.put cause, response)) else none
  | .timeOut slot' timeLeft =>
    if slot' = slot then some (some (.timeOut timeLeft, .noResponse)) else none
  | _ => none

/-- The request that was last saved in a slot, with its id and the time it was given. -/
def lastSave (slot : NiSlot) (acts : List Action) : Option (Raw × ℕ × ℕ) :=
  latest (Action.saveOf slot) acts

def lastReason (slot : NiSlot) (acts : List Action) : Option (Option (Reason × GnssNiResponse)) :=
  latest (Action.reasonOf slot) acts

def WasSaved (acts : List Action) (raw : Raw) : Prop :=
  ∃ slot id timeLeft, .save slot raw id timeLeft ∈ acts

/-- What a request that was saved under an id, with some time, may be answered with. -/
def Reason.Allows (acts : List Action) (slot : NiSlot) (id timeLeft : ℕ)
    (response : GnssNiResponse) : Reason → Prop
  | .put (.response id') => id' = id
  | .put (.acceptedId id') =>
    slot = .session ∧ response = .ignore ∧ ∃ raw t, .save .sessionEs raw id' t ∈ acts
  | .put (.accepted raw) =>
    slot = .session ∧ response = .ignore ∧ .informNiResponse .accept raw ∈ acts
  | .timeOut t => t = timeLeft ∧ response = .noResponse

/-- A request is taken out of its slot with an answer of its own, and a request that was in a slot
is given back with the answer it was taken out with, or freed if that says to ignore it. -/
def Lawful (acts : List Action) : Action → Prop
  | .take slot raw response => ∃ id timeLeft reason,
    lastSave slot acts = some (raw, id, timeLeft) ∧
      lastReason slot acts = some (some (reason, response)) ∧
        reason.Allows acts slot id timeLeft response
  | .informNiResponse response raw => WasSaved acts raw → ∃ slot, .take slot raw response ∈ acts
  | .free raw => WasSaved acts raw → ∃ slot, .take slot raw .ignore ∈ acts
  | _ => True

/-! ## Where the requests are -/

/-- The request of a message. -/
def LocMsg.raw : LocMsg → Option Raw
  | .reportNiNotify _ data _ => some data
  | .informNiResponse _ rawRequest => some rawRequest
  | .gnssNiResponse .. => none

/-- The request of a message that is not in a slot yet. -/
def LocMsg.request : LocMsg → Option Raw
  | .reportNiNotify _ data _ => some data
  | _ => none

/-- What a message sends. -/
def LocMsg.sends : LocMsg → Option (GnssNiResponse × Raw)
  | .informNiResponse response rawRequest => some (response, rawRequest)
  | _ => none

def ThreadStep.sends : ThreadStep → Option (GnssNiResponse × Raw)
  | .resetRespTimeLeft r | .resetReqID r | .send r => r
  | .created | .waiting _ | .exited => none

/-- A thread that has not taken the request out of its slot, with the time that it waits if it waits
already. -/
def ThreadStep.active : ThreadStep → Option (Option ℕ)
  | .created => some none
  | .waiting timeLeft => some (some timeLeft)
  | _ => none

/-- The request that a thread has taken out of its slot. -/
def NiThread.raw (t : NiThread) : Option Raw := t.pc.sends.map Prod.snd

def NiData.raws (d : NiData) : List Raw :=
  d.session.rawRequest.toList ++ d.sessionEs.rawRequest.toList

namespace NiSystem

variable (s : NiSystem)

/-- The requests that the adapter has. -/
def held : List Raw :=
  s.queue.filterMap LocMsg.raw ++ (s.adapter.mNiData.raws ++ s.threads.filterMap NiThread.raw)

def active (slot : NiSlot) : List (Option ℕ) :=
  s.threads.filterMap fun t ↦ if t.slot = slot then t.pc.active else none

/-- What is left to be sent, by a thread or a message. -/
def Sends (r : GnssNiResponse × Raw) : Prop :=
  (∃ t ∈ s.threads, t.pc.sends = some r) ∨ ∃ msg ∈ s.queue, msg.sends = some r

end NiSystem

/-- A request is not dropped, and no response is left over where it is saved. -/
def LocMsg.Safe (a : GnssAdapter) : LocMsg → Prop
  | .reportNiNotify notify _ emergencyState =>
    ∀ bInformNiAccept,
      a.reportNiNotify notify emergencyState = .requestNiNotify bInformNiAccept →
      (a.niClient = none → notify.type = .emergencySupl ∧ bInformNiAccept = true) ∧
      (a.niClient ≠ none → ∀ slot ∈ a.freeSlot notify.type,
        (a.mNiData.get slot).respRecvd = false)
  | .gnssNiResponse .. | .informNiResponse .. => True

instance (a : GnssAdapter) : DecidablePred (LocMsg.Safe a)
  | .reportNiNotify notify _ emergencyState => inferInstanceAs (Decidable (∀ bInformNiAccept, _))
  | .gnssNiResponse .. | .informNiResponse .. => .isTrue trivial

namespace NiSystem

variable (s : NiSystem)

/-- A thread clears its slot only as long as nothing of it is needed. -/
def ThreadSafe (slot : NiSlot) : ThreadStep → Prop
  | .resetRespTimeLeft _ => ∀ other ∈ s.threads, other.slot = slot → other.pc ≠ .created
  | .resetReqID _ => (s.adapter.mNiData.get slot).rawRequest = none ∨
      (s.adapter.mNiData.get slot).reqID = 0
  | .created | .waiting _ | .send _ | .exited => True

instance (slot : NiSlot) : DecidablePred (s.ThreadSafe slot)
  | .resetRespTimeLeft _ => inferInstanceAs (Decidable (∀ other ∈ s.threads, _))
  | .resetReqID _ => inferInstanceAs (Decidable (_ ∨ _))
  | .created | .waiting _ | .send _ | .exited => .isTrue trivial

def NextSafe : Event → Prop
  | .proc => ∀ msg ∈ s.queue.head?, msg.Safe s.adapter
  | .run i => ∀ thread ∈ s.threads[i]?, s.ThreadSafe thread.slot thread.pc
  | _ => True

instance : DecidablePred s.NextSafe
  | .proc => inferInstanceAs (Decidable (∀ msg ∈ s.queue.head?, _))
  | .run i => inferInstanceAs (Decidable (∀ thread ∈ s.threads[i]?, _))
  | .requestNiNotifyEvent .. | .gnssNiResponseCommand .. | .resume | .timeOut _ | .configure _ =>
    .isTrue trivial

end NiSystem

/-! ## The invariant -/

/-- A slot with the threads that are active on it. -/
def SlotOk (acts : List Action) (slot : NiSlot) (x : NiSession) (active : List (Option ℕ)) : Prop :=
  match x.rawRequest with
  | none => active = []
  | some raw => ∃ timeLeft, lastSave slot acts = some (raw, x.reqID, timeLeft) ∧
    (active = [none] ∧ x.respTimeLeft = timeLeft ∨ active = [some timeLeft]) ∧
    (x.respRecvd = true → ∃ reason, lastReason slot acts = some (some (reason, x.resp)) ∧
      reason.Allows acts slot x.reqID timeLeft x.resp)

/-- A response is for the request that was last saved in its slot. -/
def Reply.Ok (acts : List Action) (r : Reply) : Prop :=
  ∃ raw timeLeft, lastSave r.slot acts = some (raw, r.id, timeLeft)

def TaskStep.Ok (acts : List Action) : TaskStep → Prop
  | .idle | .testSession .. => True
  | .testIgnore cause after | .ignore cause after =>
    (∀ id timeLeft, (Reason.put cause).Allows acts .session id timeLeft .ignore) ∧
      ∀ r ∈ after, r.Ok acts
  | .reply r => r.Ok acts

structure Answering (acts : List Action) (s : NiSystem) : Prop where
  balance : (acts.filterMap Action.disposes ++ s.held).Perm (List.range s.requests)
  slots : ∀ slot, SlotOk acts slot (s.adapter.mNiData.get slot) (s.active slot)
  task : s.task.Ok acts
  sent : ∀ r, s.Sends r → ∃ slot, .take slot r.2 r.1 ∈ acts
  saved : ∀ raw, WasSaved acts raw →
    raw < s.requests ∧ raw ∉ s.queue.filterMap LocMsg.request
  law : Always Lawful acts

/-! ## Reading the record -/

section

variable {acts acts' : List Action} {slot : NiSlot} {x x' : NiSession} {active : List (Option ℕ)}

theorem WasSaved.append (acts' : List Action) {raw : Raw} (h : WasSaved acts raw) :
    WasSaved (acts ++ acts') raw := by
  obtain ⟨slot, id, timeLeft, hmem⟩ := h
  exact ⟨slot, id, timeLeft, mem_append_left _ hmem⟩

theorem mem_of_lastSave {raw : Raw} {id timeLeft : ℕ}
    (h : lastSave slot acts = some (raw, id, timeLeft)) :
    .save slot raw id timeLeft ∈ acts := by
  obtain ⟨a, ha, hsave⟩ := exists_of_findSome?_eq_some h
  cases a with
  | save slot' raw' id' timeLeft' =>
    rw [Action.saveOf] at hsave
    split at hsave
    · next hslot =>
      cases hsave
      exact hslot ▸ mem_reverse.mp ha
    · cases hsave
  | _ => cases hsave

theorem Reason.Allows.append (acts' : List Action) {id timeLeft : ℕ} {response : GnssNiResponse}
    {reason : Reason} (h : reason.Allows acts slot id timeLeft response) :
    reason.Allows (acts ++ acts') slot id timeLeft response := by
  cases reason with
  | timeOut t => exact h
  | put cause =>
    cases cause with
    | response id' => exact h
    | acceptedId id' =>
      obtain ⟨hslot, hresponse, raw, t, hmem⟩ := h
      exact ⟨hslot, hresponse, raw, t, mem_append_left _ hmem⟩
    | accepted raw => exact ⟨h.1, h.2.1, mem_append_left _ h.2.2⟩

theorem lastSave_append (h : ∀ a ∈ acts', a.saveOf slot = none) :
    lastSave slot (acts ++ acts') = lastSave slot acts := latest_append_of_none h

theorem lastReason_append (h : ∀ a ∈ acts', a.reasonOf slot = none) :
    lastReason slot (acts ++ acts') = lastReason slot acts := latest_append_of_none h

theorem saveOf_of_reasonOf {a : Action} (h : a.reasonOf slot = none) : a.saveOf slot = none := by
  cases a with
  | save slot' raw id timeLeft =>
    rw [Action.reasonOf] at h
    split at h
    · cases h
    · next hne => exact if_neg hne
  | _ => rfl

/-- What is not about a slot leaves it as it is. -/
theorem SlotOk.append (h : SlotOk acts slot x active) (hacts : ∀ a ∈ acts', a.reasonOf slot = none) :
    SlotOk (acts ++ acts') slot x active := by
  rw [SlotOk] at h ⊢
  split
  · next hnone => simpa [hnone] using h
  · next raw hsome =>
    simp only [hsome] at h
    obtain ⟨timeLeft, hsave, hactive, hresponse⟩ := h
    refine ⟨timeLeft, ?_, hactive, fun hrecvd ↦ ?_⟩
    · rw [lastSave_append fun a ha ↦ saveOf_of_reasonOf (hacts a ha), hsave]
    · obtain ⟨reason, hreason, hallows⟩ := hresponse hrecvd
      exact ⟨reason, by rw [lastReason_append hacts, hreason], hallows.append acts'⟩

theorem TaskStep.Ok.append {task : TaskStep} (h : task.Ok acts)
    (hacts : ∀ slot, ∀ a ∈ acts', a.saveOf slot = none) : task.Ok (acts ++ acts') := by
  have hreply : ∀ r : Reply, r.Ok acts → r.Ok (acts ++ acts') := by
    rintro r ⟨raw, timeLeft, hsave⟩
    exact ⟨raw, timeLeft, by rw [lastSave_append (hacts _), hsave]⟩
  cases task with
  | idle | testSession => trivial
  | testIgnore cause after | ignore cause after =>
    exact ⟨fun id timeLeft ↦ (h.1 id timeLeft).append acts', fun r hr ↦ hreply r (h.2 r hr)⟩
  | reply r => exact hreply r h

theorem SlotOk.perm {active' : List (Option ℕ)} (h : SlotOk acts slot x active)
    (hperm : active'.Perm active) : SlotOk acts slot x active' := by
  rw [SlotOk] at h ⊢
  split
  · next hnone =>
    simp only [hnone] at h
    rw [h] at hperm
    exact hperm.eq_nil
  · next raw hsome =>
    simp only [hsome] at h
    obtain ⟨timeLeft, hsave, hactive, hresponse⟩ := h
    refine ⟨timeLeft, hsave, ?_, hresponse⟩
    rcases hactive with ⟨rfl, htime⟩ | rfl
    · exact Or.inl ⟨perm_singleton.mp hperm, htime⟩
    · exact Or.inr (perm_singleton.mp hperm)

/-- A slot with an active thread holds a request. -/
theorem SlotOk.exists_raw (h : SlotOk acts slot x active) {a : Option ℕ} (ha : a ∈ active) :
    ∃ raw timeLeft, x.rawRequest = some raw ∧ lastSave slot acts = some (raw, x.reqID, timeLeft) ∧
      active = [a] ∧ (a = none ∧ x.respTimeLeft = timeLeft ∨ a = some timeLeft) ∧
      (x.respRecvd = true → ∃ reason, lastReason slot acts = some (some (reason, x.resp)) ∧
        reason.Allows acts slot x.reqID timeLeft x.resp) := by
  rw [SlotOk] at h
  split at h
  · rw [h] at ha
    cases ha
  · next raw hsome =>
    obtain ⟨timeLeft, hsave, hactive, hresponse⟩ := h
    rcases hactive with ⟨rfl, htime⟩ | rfl
    · obtain rfl := mem_singleton.mp ha
      exact ⟨raw, timeLeft, hsome, hsave, rfl, Or.inl ⟨rfl, htime⟩, hresponse⟩
    · obtain rfl := mem_singleton.mp ha
      exact ⟨raw, timeLeft, hsome, hsave, rfl, Or.inr rfl, hresponse⟩

end

/-! ## Moving requests -/

/-- What a list reads as when one of its items is replaced. -/
theorem filterMap_set_perm {α β : Type} (f : α → Option β) {l : List α} {i : ℕ} {x : α}
    (h : l[i]? = some x) (y : α) :
    ((f x).toList ++ (l.set i y).filterMap f).Perm ((f y).toList ++ l.filterMap f) := by
  obtain ⟨hlt, hget⟩ := List.getElem?_eq_some_iff.mp h
  have hold := getElem_cons_eraseIdx_perm hlt
  rw [hget] at hold
  have hnew := set_perm_cons_eraseIdx hlt y
  have hperm : (x :: l.set i y).Perm (y :: l) :=
    (hnew.cons x).trans ((List.Perm.swap y x _).trans (hold.cons y))
  have hf := hperm.filterMap f
  rw [filterMap_cons, filterMap_cons] at hf
  cases hx : f x <;> cases hy : f y <;> simpa [hx, hy] using hf

theorem NiData.raws_set (d : NiData) (slot : NiSlot) (x : NiSession) :
    ((d.get slot).rawRequest.toList ++ (d.set slot x).raws).Perm
      (x.rawRequest.toList ++ d.raws) := by
  rw [perm_iff_count]
  intro raw
  cases slot <;> simp only [raws, get, set, count_append] <;> omega

theorem raws_modifySlot (a : GnssAdapter) (slot : NiSlot) (f : NiSession → NiSession) :
    ((a.mNiData.get slot).rawRequest.toList ++ (a.modifySlot slot f).mNiData.raws).Perm
      ((f (a.mNiData.get slot)).rawRequest.toList ++ a.mNiData.raws) :=
  a.mNiData.raws_set slot _

@[simp] theorem get_modifySlot_self (a : GnssAdapter) (slot : NiSlot)
    (f : NiSession → NiSession) :
    (a.modifySlot slot f).mNiData.get slot = f (a.mNiData.get slot) :=
  a.mNiData.get_set_self slot _

theorem get_modifySlot_of_ne (a : GnssAdapter) {slot slot' : NiSlot} (f : NiSession → NiSession)
    (h : slot' ≠ slot) : (a.modifySlot slot f).mNiData.get slot' = a.mNiData.get slot' :=
  a.mNiData.get_set_of_ne _ h

namespace NiSystem

variable {s : NiSystem} {i : ℕ} {slot : NiSlot} {pc : ThreadStep}

theorem active_setThread (hi : s.threads[i]? = some ⟨slot, pc⟩) (slot' : NiSlot)
    (pc' : ThreadStep) :
    ((if slot = slot' then pc.active else none).toList ++
        (s.setThread i slot pc').active slot').Perm
      ((if slot = slot' then pc'.active else none).toList ++ s.active slot') :=
  filterMap_set_perm (fun t ↦ if t.slot = slot' then t.pc.active else none) hi _

theorem mem_active (hi : s.threads[i]? = some ⟨slot, pc⟩) {a : Option ℕ}
    (hpc : pc.active = some a) : a ∈ s.active slot := by
  refine mem_filterMap.mpr ⟨_, mem_of_getElem? hi, ?_⟩
  rw [if_pos rfl, hpc]

/-- What is left to be sent, when a thread goes on. -/
theorem sends_setThread {pc' : ThreadStep} {r : GnssNiResponse × Raw}
    (h : (s.setThread i slot pc').Sends r) : s.Sends r ∨ pc'.sends = some r := by
  rcases h with ⟨t, ht, hr⟩ | ⟨msg, hmsg, hr⟩
  · rcases mem_or_eq_of_mem_set ht with ht | rfl
    · exact Or.inl (Or.inl ⟨t, ht, hr⟩)
    · exact Or.inr hr
  · exact Or.inl (Or.inr ⟨msg, hmsg, hr⟩)

end NiSystem

/-- An action that is not about a request. -/
def Action.Plain : Action → Prop
  | .responseCb .. | .gnssNiCb .. | .put .. | .timeOut .. => True
  | .informNiResponse .. | .free _ | .save .. | .take .. => False

namespace Action.Plain

variable {a : Action}

theorem disposes (h : a.Plain) : a.disposes = none := by
  cases a <;> first | rfl | cases h

theorem saveOf (h : a.Plain) (slot : NiSlot) : a.saveOf slot = none := by
  cases a <;> first | rfl | cases h

theorem lawful (h : a.Plain) (acts : List Action) : Lawful acts a := by
  cases a <;> trivial

theorem disposes_eq_nil {acts : List Action} (h : ∀ a ∈ acts, a.Plain) :
    acts.filterMap Action.disposes = [] :=
  filterMap_eq_nil_iff.mpr fun a ha ↦ (h a ha).disposes

theorem wasSaved_append {acts acts' : List Action} (h : ∀ a ∈ acts', a.Plain) {raw : Raw} :
    WasSaved (acts ++ acts') raw ↔ WasSaved acts raw := by
  refine ⟨?_, fun hsaved ↦ hsaved.append acts'⟩
  rintro ⟨slot, id, timeLeft, hmem⟩
  rcases mem_append.mp hmem with hmem | hmem
  · exact ⟨slot, id, timeLeft, hmem⟩
  · cases h _ hmem

end Action.Plain

namespace Answering

variable {acts acts' : List Action} {s s' : NiSystem} {i : ℕ} {slot : NiSlot} {pc : ThreadStep}

section

variable (h : Answering acts s)
include h

/-- What is disposed of is no longer held. -/
theorem balance_of_perm
    (hperm : (acts'.filterMap Action.disposes ++ s'.held).Perm s.held) (hreq : s'.requests = s.requests) :
    ((acts ++ acts').filterMap Action.disposes ++ s'.held).Perm (List.range s'.requests) := by
  rw [filterMap_append, append_assoc, hreq]
  exact (hperm.append_left _).trans h.balance

/-- A thread goes on, where its slot and what it has to send stay. -/
theorem setThread (hi : s.threads[i]? = some ⟨slot, pc⟩) {pc' : ThreadStep}
    (hactive : pc'.active = pc.active) (hsends : pc'.sends = pc.sends) :
    Answering acts (s.setThread i slot pc') where
  balance := by
    have hthreads := filterMap_set_perm NiThread.raw hi ⟨slot, pc'⟩
    simp only [NiThread.raw, hsends] at hthreads
    have hperm := (perm_append_left_iff _).mp hthreads
    exact ((hperm.append_left _).append_left _ |>.append_left _).trans h.balance
  slots slot' := by
    have hperm := NiSystem.active_setThread hi slot' pc'
    rw [hactive] at hperm
    exact (h.slots slot').perm ((perm_append_left_iff _).mp hperm)
  task := h.task
  sent r hr := by
    rcases NiSystem.sends_setThread hr with hr | hr
    · exact h.sent r hr
    · exact h.sent r (Or.inl ⟨_, mem_of_getElem? hi, hsends ▸ hr⟩)
  saved := h.saved
  law := h.law

/-- What a slot holds stays, while the response, the time or the id may change. -/
theorem modifySlot (acts' : List Action) {f : NiSession → NiSession}
    (hraw : (f (s.adapter.mNiData.get slot)).rawRequest = (s.adapter.mNiData.get slot).rawRequest)
    (hplain : ∀ a ∈ acts', a.Plain)
    (hother : ∀ slot' ≠ slot, ∀ a ∈ acts', a.reasonOf slot' = none)
    (hslot : SlotOk (acts ++ acts') slot (f (s.adapter.mNiData.get slot)) (s.active slot)) :
    Answering (acts ++ acts') { s with adapter := s.adapter.modifySlot slot f } where
  balance := by
    refine h.balance_of_perm ?_ rfl
    rw [Action.Plain.disposes_eq_nil hplain, nil_append]
    have hraws := raws_modifySlot s.adapter slot f
    rw [hraw] at hraws
    exact (((perm_append_left_iff _).mp hraws).append_right _).append_left _
  slots slot' := by
    by_cases hslot' : slot' = slot
    · subst hslot'
      rw [get_modifySlot_self]
      exact hslot
    · rw [get_modifySlot_of_ne _ _ hslot']
      exact (h.slots slot').append (hother slot' hslot')
  task := h.task.append fun slot a ha ↦ (hplain a ha).saveOf slot
  sent r hr := by
    obtain ⟨slot, hmem⟩ := h.sent r hr
    exact ⟨slot, mem_append_left _ hmem⟩
  saved raw hraw := h.saved raw ((Action.Plain.wasSaved_append hplain).mp hraw)
  law := always_append.mpr ⟨h.law, .of_forall fun a ha _ ↦ (hplain a ha).lawful _⟩

/-- Where only the task goes on, and clients may be told something. -/
theorem setTask (acts' : List Action) {task : TaskStep} (htask : task.Ok acts)
    (hacts : ∀ a ∈ acts', ∃ client err id, a = .responseCb client err id) :
    Answering (acts ++ acts') { s with task := task } := by
  have hplain : ∀ a ∈ acts', a.Plain := fun a ha ↦ by
    obtain ⟨client, err, id, rfl⟩ := hacts a ha
    trivial
  refine ⟨?_, fun slot ↦ (h.slots slot).append fun a ha ↦ ?_,
    htask.append fun slot a ha ↦ (hplain a ha).saveOf slot, fun r hr ↦ ?_,
    fun raw hraw ↦ h.saved raw ((Action.Plain.wasSaved_append hplain).mp hraw),
    always_append.mpr ⟨h.law, .of_forall fun a ha _ ↦ (hplain a ha).lawful _⟩⟩
  · refine h.balance_of_perm ?_ rfl
    rw [Action.Plain.disposes_eq_nil hplain, nil_append]
    rfl
  · obtain ⟨client, err, id, rfl⟩ := hacts a ha
    rfl
  · obtain ⟨slot, hmem⟩ := h.sent r hr
    exact ⟨slot, mem_append_left _ hmem⟩

/-- A thread begins to wait for the time that its request was given. -/
theorem start (hi : s.threads[i]? = some ⟨slot, .created⟩) :
    Answering acts
      (s.setThread i slot (.waiting (s.adapter.mNiData.get slot).respTimeLeft)) where
  balance := by
    have hthreads := filterMap_set_perm NiThread.raw hi
      ⟨slot, .waiting (s.adapter.mNiData.get slot).respTimeLeft⟩
    exact ((hthreads.append_left _).append_left _ |>.append_left _).trans h.balance
  slots slot' := by
    have hperm := NiSystem.active_setThread hi slot'
      (.waiting (s.adapter.mNiData.get slot).respTimeLeft)
    by_cases hslot : slot = slot'
    · subst hslot
      obtain ⟨raw, timeLeft, hraw, hsave, hactive, htime, hresponse⟩ :=
        (h.slots slot).exists_raw (NiSystem.mem_active hi rfl)
      rw [if_pos rfl, if_pos rfl, hactive] at hperm
      have hactive' : (s.setThread i slot
          (.waiting (s.adapter.mNiData.get slot).respTimeLeft)).active slot =
            [some (s.adapter.mNiData.get slot).respTimeLeft] :=
        perm_singleton.mp ((perm_append_left_iff [none]).mp
          (hperm.trans perm_append_comm))
      have htime' : (s.adapter.mNiData.get slot).respTimeLeft = timeLeft := by
        rcases htime with ⟨-, htime⟩ | htime
        · exact htime
        · cases htime
      rw [SlotOk]
      simp only [NiSystem.setThread, hraw]
      exact ⟨timeLeft, hsave, Or.inr (by rw [← htime']; exact hactive'), hresponse⟩
    · rw [if_neg hslot, if_neg hslot] at hperm
      exact (h.slots slot').perm hperm
  task := h.task
  sent r hr := by
    rcases NiSystem.sends_setThread hr with hr | hr
    · exact h.sent r hr
    · cases hr
  saved := h.saved
  law := h.law

/-- A thread with a lawful answer takes the request out of its slot. -/
theorem leaveLoop (hi : s.threads[i]? = some ⟨slot, pc⟩) {t : Option ℕ}
    (hpc : pc.active = some t) {raw : Raw}
    (hraw : (s.adapter.mNiData.get slot).rawRequest = some raw)
    (hlaw : Lawful acts (.take slot raw (s.adapter.mNiData.get slot).resp)) :
    Answering (acts ++ (s.leaveLoop i slot).2) (s.leaveLoop i slot).1 := by
  have hsends : pc.sends = none := by
    cases pc <;> first | rfl | cases hpc
  obtain ⟨actions, send, htake, hactions⟩ : ∃ actions send,
      s.adapter.takeRequest slot = (s.adapter.modifySlot slot fun x ↦
        { x with respRecvd := false, rawRequest := none }, actions, send) ∧
      (actions = [.take slot raw (s.adapter.mNiData.get slot).resp] ∧
          send = some ((s.adapter.mNiData.get slot).resp, raw) ∨
        actions = [.take slot raw (s.adapter.mNiData.get slot).resp, .free raw] ∧ send = none ∧
          (s.adapter.mNiData.get slot).resp = .ignore) := by
    simp only [GnssAdapter.takeRequest, hraw]
    split
    · exact ⟨_, _, rfl, Or.inl ⟨rfl, rfl⟩⟩
    · next hne => exact ⟨_, _, rfl, Or.inr ⟨rfl, rfl, not_not.mp hne⟩⟩
  have hleave : s.leaveLoop i slot = ({ s with adapter := s.adapter.modifySlot slot fun x ↦
      { x with respRecvd := false, rawRequest := none } }.setThread i slot
        (.resetRespTimeLeft send), actions) := by
    rw [NiSystem.leaveLoop, htake]
  rw [hleave]
  have hmem : ∀ a ∈ actions, a = .take slot raw (s.adapter.mNiData.get slot).resp ∨
      a = .free raw := by
    rcases hactions with ⟨rfl, -⟩ | ⟨rfl, -⟩ <;> simp
  have hreason : ∀ slot', ∀ a ∈ actions, a.reasonOf slot' = none := by
    intro slot' a ha
    rcases hmem a ha with rfl | rfl <;> rfl
  have hsaved : ∀ raw', WasSaved (acts ++ actions) raw' → WasSaved acts raw' := by
    rintro raw' ⟨slot', id, timeLeft, hsave⟩
    rcases mem_append.mp hsave with hsave | hsave
    · exact ⟨slot', id, timeLeft, hsave⟩
    · rcases hmem _ hsave with heq | heq <;> cases heq
  have htaken : .take slot raw (s.adapter.mNiData.get slot).resp ∈ actions := by
    rcases hactions with ⟨rfl, -⟩ | ⟨rfl, -⟩ <;> simp
  refine ⟨h.balance_of_perm ?_ rfl, fun slot' ↦ ?_,
    h.task.append fun slot' a ha ↦ saveOf_of_reasonOf (hreason slot' a ha), fun r hr ↦ ?_,
    fun raw' hraw' ↦ h.saved raw' (hsaved raw' hraw'), ?_⟩
  · -- the request moves from the slot to the thread, or is freed
    have hraws := raws_modifySlot s.adapter slot fun x ↦
      { x with respRecvd := false, rawRequest := none }
    have hthreads : ((s.threads.set i ⟨slot, .resetRespTimeLeft send⟩).filterMap NiThread.raw).Perm
        ((send.map Prod.snd).toList ++ s.threads.filterMap NiThread.raw) := by
      have hset := filterMap_set_perm NiThread.raw hi ⟨slot, .resetRespTimeLeft send⟩
      rw [show NiThread.raw ⟨slot, pc⟩ = none by rw [NiThread.raw, hsends]; rfl] at hset
      exact hset
    rw [hraw] at hraws
    rw [perm_iff_count]
    intro r
    have hr := hraws.count_eq r
    have ht := hthreads.count_eq r
    have hdisposes : actions.filterMap Action.disposes ++ (send.map Prod.snd).toList = [raw] := by
      rcases hactions with ⟨rfl, rfl⟩ | ⟨rfl, rfl, -⟩ <;> rfl
    have hd := congrArg (List.count r) hdisposes
    simp only [NiSystem.held, NiSystem.setThread, count_append, toList_some,
      toList_none, count_nil] at hr ht hd ⊢
    omega
  · have hperm := NiSystem.active_setThread hi slot' (.resetRespTimeLeft send)
    by_cases hslot : slot = slot'
    · subst hslot
      obtain ⟨-, -, -, -, hactive, -, -⟩ := (h.slots slot).exists_raw (NiSystem.mem_active hi hpc)
      rw [if_pos rfl, if_pos rfl, hactive, hpc] at hperm
      have hnil := List.Perm.eq_nil ((perm_append_left_iff [t]).mp hperm)
      rw [SlotOk]
      simp only [NiSystem.setThread, get_modifySlot_self]
      exact hnil
    · rw [if_neg hslot, if_neg hslot] at hperm
      have hget := get_modifySlot_of_ne s.adapter
        (fun x ↦ { x with respRecvd := false, rawRequest := none }) (Ne.symm hslot)
      simp only [NiSystem.setThread, hget]
      exact ((h.slots slot').append (hreason slot')).perm hperm
  · rcases NiSystem.sends_setThread hr with hr | hr
    · obtain ⟨slot', hsent⟩ := h.sent r hr
      exact ⟨slot', mem_append_left _ hsent⟩
    · refine ⟨slot, mem_append_right _ ?_⟩
      rcases hactions with ⟨-, rfl⟩ | ⟨-, rfl, -⟩
      · obtain rfl := some_inj.mp hr
        exact htaken
      · cases hr
  · refine always_append.mpr ⟨h.law, ?_⟩
    have hfirst : Always (fun pre ↦ Lawful (acts ++ pre))
        [.take slot raw (s.adapter.mNiData.get slot).resp] := by
      refine always_concat (l := []).mpr ⟨always_nil _, ?_⟩
      rwa [List.append_nil]
    rcases hactions with ⟨rfl, -⟩ | ⟨rfl, -, hignore⟩
    · exact hfirst
    · refine always_concat (l := [_]).mpr ⟨hfirst, fun _ ↦ ⟨slot, ?_⟩⟩
      rw [hignore]
      simp

/-- What has been received while the slot holds a request is a lawful answer to it. -/
theorem lawful_of_respRecvd (hi : s.threads[i]? = some ⟨slot, pc⟩)
    {t : Option ℕ} (hpc : pc.active = some t)
    (hrecvd : (s.adapter.mNiData.get slot).respRecvd = true) :
    ∃ raw, (s.adapter.mNiData.get slot).rawRequest = some raw ∧
      Lawful acts (.take slot raw (s.adapter.mNiData.get slot).resp) := by
  obtain ⟨raw, timeLeft, hraw, hsave, -, -, hresponse⟩ :=
    (h.slots slot).exists_raw (NiSystem.mem_active hi hpc)
  obtain ⟨reason, hreason, hallows⟩ := hresponse hrecvd
  exact ⟨raw, hraw, _, timeLeft, reason, hsave, hreason, hallows⟩

/-- A thread sends its answer, if it has one. -/
theorem send {r : Option (GnssNiResponse × Raw)} (hi : s.threads[i]? = some ⟨slot, .send r⟩) :
    Answering acts ({ s with
      queue := s.queue ++ r.toList.map fun (resp, raw) ↦ LocMsg.informNiResponse resp raw }
        |>.setThread i slot .exited) where
  balance := by
    have hthreads := filterMap_set_perm NiThread.raw hi ⟨slot, .exited⟩
    have hqueue : (r.toList.map fun (resp, raw) ↦ LocMsg.informNiResponse resp raw).filterMap
        LocMsg.raw = (NiThread.raw ⟨slot, .send r⟩).toList := by
      cases r <;> rfl
    refine List.Perm.trans (List.Perm.append_left _ ?_) h.balance
    rw [perm_iff_count]
    intro raw
    have ht := hthreads.count_eq raw
    have hexited : (NiThread.raw ⟨slot, .exited⟩).toList = [] := rfl
    simp only [NiSystem.held, NiSystem.setThread, filterMap_append, hqueue, hexited,
      count_append, count_nil] at ht ⊢
    omega
  slots slot' := by
    have hperm := NiSystem.active_setThread hi slot' .exited
    have hnone : ∀ pc : ThreadStep, pc.active = none →
        (if slot = slot' then pc.active else none).toList = [] := by
      intro pc hpc
      rw [hpc, ite_self]
      rfl
    rw [hnone _ rfl, hnone _ rfl] at hperm
    exact (h.slots slot').perm hperm
  task := h.task
  sent r' hr := by
    rcases NiSystem.sends_setThread hr with (⟨t, ht, hr⟩ | ⟨msg, hmsg, hr⟩) | hr
    · exact h.sent r' (Or.inl ⟨t, ht, hr⟩)
    · rcases mem_append.mp hmsg with hmsg | hmsg
      · exact h.sent r' (Or.inr ⟨msg, hmsg, hr⟩)
      · obtain ⟨r'', hr'', rfl⟩ := mem_map.mp hmsg
        obtain rfl : r'' = r' := some_inj.mp hr
        exact h.sent r'' (Or.inl ⟨_, mem_of_getElem? hi, Option.mem_toList.mp hr''⟩)
    · cases hr
  saved raw hraw := by
    obtain ⟨hlt, hnot⟩ := h.saved raw hraw
    refine ⟨hlt, ?_⟩
    change raw ∉ (s.queue ++ _).filterMap LocMsg.request
    rw [filterMap_append, mem_append, not_or]
    refine ⟨hnot, ?_⟩
    cases r <;> simp [LocMsg.request]
  law := h.law

/-- A thread goes on. -/
theorem run (hi : s.threads[i]? = some ⟨slot, pc⟩)
    (hsafe : s.ThreadSafe slot pc) (hs : s.run i slot pc = some (s', acts')) :
    Answering (acts ++ acts') s' := by
  cases pc with
  | created =>
    rw [NiSystem.run] at hs
    split at hs
    · next hrecvd =>
      obtain ⟨raw, hraw, hlaw⟩ := h.lawful_of_respRecvd hi rfl hrecvd
      have hleave := h.leaveLoop hi rfl hraw hlaw
      rw [some_inj.mp hs] at hleave
      exact hleave
    · obtain ⟨rfl, rfl⟩ := some_pair_inj hs
      rw [List.append_nil]
      exact h.start hi
  | waiting timeLeft =>
    rw [NiSystem.run] at hs
    split at hs
    · next hrecvd =>
      obtain ⟨raw, hraw, hlaw⟩ := h.lawful_of_respRecvd hi rfl hrecvd
      have hleave := h.leaveLoop hi rfl hraw hlaw
      rw [some_inj.mp hs] at hleave
      exact hleave
    · cases hs
  | resetRespTimeLeft r =>
    obtain ⟨rfl, rfl⟩ := some_pair_inj hs
    refine (h.modifySlot [] (f := fun x ↦ { x with respTimeLeft := 0 }) rfl
      (by simp) (by simp) ?_).setThread hi rfl rfl
    have hslot := h.slots slot
    rw [List.append_nil]
    rw [SlotOk] at hslot ⊢
    split at hslot
    · next hnone => simpa [hnone] using hslot
    · next raw hsome =>
      obtain ⟨timeLeft, hsave, hactive, hresponse⟩ := hslot
      simp only [hsome]
      refine ⟨timeLeft, hsave, hactive.imp_left fun ⟨hnone, _⟩ ↦ ?_, hresponse⟩
      -- the thread of the request would not have read its time yet
      have hmem : none ∈ s.active slot := by simp [hnone]
      obtain ⟨t, ht, heq⟩ := mem_filterMap.mp hmem
      split at heq
      · next htslot =>
        have hcreated : t.pc = .created := by
          rcases hpc : t.pc with - | _ | _ | _ | _ | _ <;> rw [hpc] at heq <;>
            first | rfl | cases heq
        exact absurd hcreated (hsafe t ht htslot)
      · cases heq
  | resetReqID r =>
    obtain ⟨rfl, rfl⟩ := some_pair_inj hs
    refine (h.modifySlot [] (f := fun x ↦ { x with reqID := 0 }) rfl
      (by simp) (by simp) ?_).setThread hi rfl rfl
    have hslot := h.slots slot
    rw [List.append_nil]
    rcases hsafe with hnone | hzero
    · rw [SlotOk] at hslot ⊢
      simpa [hnone] using hslot
    · have heq : { s.adapter.mNiData.get slot with reqID := 0 } = s.adapter.mNiData.get slot := by
        rw [← hzero]
      rw [heq]
      exact hslot
  | send r =>
    obtain ⟨rfl, rfl⟩ := some_pair_inj hs
    rw [List.append_nil]
    exact h.send hi
  | exited => cases hs

theorem timeOut {timeLeft : ℕ} (hi : s.threads[i]? = some ⟨slot, .waiting timeLeft⟩) :
    Answering (acts ++ (s.timeOut i slot timeLeft).2) (s.timeOut i slot timeLeft).1 := by
  obtain ⟨raw, timeLeft', hraw, hsave, -, htime, -⟩ :=
    (h.slots slot).exists_raw (NiSystem.mem_active hi rfl)
  obtain rfl : timeLeft = timeLeft' := by
    rcases htime with ⟨hnone, -⟩ | hsome
    · cases hnone
    · exact some_inj.mp hsome
  have hsave' : lastSave slot (acts ++ [.timeOut slot timeLeft]) =
      some (raw, (s.adapter.mNiData.get slot).reqID, timeLeft) := by
    rw [lastSave_append (by simp [Action.saveOf]), hsave]
  have hreason : lastReason slot (acts ++ [.timeOut slot timeLeft]) =
      some (some (.timeOut timeLeft, .noResponse)) := by
    rw [lastReason, latest_concat, Action.reasonOf, if_pos rfl, some_or]
  have hmodify : Answering (acts ++ [.timeOut slot timeLeft]) { s with
      adapter := s.adapter.modifySlot slot fun x ↦ { x with resp := .noResponse } } := by
    refine h.modifySlot _ rfl (by simp [Action.Plain]) ?_ ?_
    · rintro slot' hne a ha
      rw [mem_singleton.mp ha]
      exact if_neg (Ne.symm hne)
    · have hslot := h.slots slot
      rw [SlotOk] at hslot ⊢
      simp only [hraw] at hslot ⊢
      obtain ⟨timeLeft', hsave₁, hactive, -⟩ := hslot
      obtain rfl : timeLeft = timeLeft' := by
        rw [hsave] at hsave₁
        cases hsave₁
        rfl
      exact ⟨timeLeft, hsave', hactive, fun _ ↦ ⟨_, hreason, rfl, rfl⟩⟩
  have hleave := hmodify.leaveLoop hi rfl (by rw [get_modifySlot_self]; exact hraw) (by
      rw [get_modifySlot_self]
      exact ⟨_, timeLeft, _, hsave', hreason, rfl, rfl⟩)
  rw [append_assoc] at hleave
  exact hleave

/-- The locked section of a message, where what it puts is for the request that was last saved. -/
theorem put (slot : NiSlot) (cause : Cause) (response : GnssNiResponse)
    (hallows : ∀ raw id timeLeft, lastSave slot acts = some (raw, id, timeLeft) →
      (Reason.put cause).Allows acts slot id timeLeft response) :
    Answering (acts ++ [.put slot cause response])
      { s with adapter := s.adapter.putResponse slot response } := by
  refine h.modifySlot _ rfl (by simp [Action.Plain]) ?_ ?_
  · rintro slot' hne a ha
    rw [mem_singleton.mp ha]
    exact if_neg (Ne.symm hne)
  · have hslot := h.slots slot
    rw [SlotOk] at hslot ⊢
    split at hslot
    · next hnone => simpa [hnone] using hslot
    · next raw hsome =>
      obtain ⟨timeLeft, hsave, hactive, -⟩ := hslot
      simp only [hsome]
      refine ⟨timeLeft, ?_, hactive, fun _ ↦ ⟨.put cause, ?_, ?_⟩⟩
      · rw [lastSave_append (by simp [Action.saveOf]), hsave]
      · rw [lastReason, latest_concat, Action.reasonOf, if_pos rfl, some_or]
      · exact (hallows raw _ timeLeft hsave).append _

end

theorem mem_reportResponse {a : GnssAdapter} {client : LocationAPI} {err : LocationError} {id : ℕ}
    {action : Action} (h : action ∈ a.reportResponse client err id) :
    ∃ client err id, action = .responseCb client err id := by
  rw [GnssAdapter.reportResponse] at h
  split at h
  · exact ⟨client, err, id, mem_singleton.mp h⟩
  · cases h

theorem ok_next {cause : Cause} {after : Option Reply} (h : (TaskStep.testIgnore cause after).Ok acts) :
    (TaskStep.next after).Ok acts := by
  cases after with
  | none => trivial
  | some r => exact h.2 r rfl

section

variable (h : Answering acts s)
include h

/-- A response to a request that is found in a slot is for the request last saved there. -/
theorem ok_of_isActive {id : ℕ} (hid : s.adapter.IsActive slot id) :
    ∃ raw timeLeft, lastSave slot acts = some (raw, id, timeLeft) := by
  obtain ⟨rfl, hne⟩ := hid
  obtain ⟨raw, hraw⟩ := Option.ne_none_iff_exists'.mp hne
  have hslot := h.slots slot
  rw [SlotOk] at hslot
  simp only [hraw] at hslot
  obtain ⟨timeLeft, hsave, -⟩ := hslot
  exact ⟨raw, timeLeft, hsave⟩

/-- The message task goes on. -/
theorem resume (hs : s.resume s.task = some (s', acts')) :
    Answering (acts ++ acts') s' := by
  have htask := h.task
  rcases hstep : s.task with - | ⟨client, id, response⟩ | ⟨cause, after⟩ | ⟨cause, after⟩ | r <;>
    rw [hstep] at hs htask
  · cases hs
  · rw [NiSystem.resume] at hs
    split at hs
    · next hid =>
      obtain ⟨rfl, rfl⟩ := some_pair_inj hs
      exact h.setTask _ (h.ok_of_isActive hid) (by simp)
    · obtain ⟨rfl, rfl⟩ := some_pair_inj hs
      exact h.setTask _ trivial fun a ha ↦ mem_reportResponse ha
  · obtain ⟨rfl, rfl⟩ := some_pair_inj hs
    refine h.setTask _ ?_ (by simp)
    split
    · exact htask
    · exact ok_next htask
  · obtain ⟨rfl, rfl⟩ := some_pair_inj hs
    have hput := h.put .session cause .ignore
      fun raw id timeLeft _ ↦ htask.1 id timeLeft
    have hnext : (TaskStep.next after).Ok (acts ++ [.put .session cause .ignore]) :=
      (ok_next htask).append fun slot a ha ↦ by rw [mem_singleton.mp ha]; rfl
    have hset := hput.setTask [] hnext (by simp)
    rw [List.append_nil] at hset
    exact hset
  · obtain ⟨rfl, rfl⟩ := some_pair_inj hs
    obtain ⟨raw, timeLeft, hsave⟩ := htask
    have hput := h.put r.slot (.response r.id) r.response
      fun raw' id timeLeft' hsave' ↦ by
        rw [hsave] at hsave'
        cases hsave'
        rfl
    have hset := hput.setTask (s.adapter.reportResponse r.client .success r.id)
      (show TaskStep.idle.Ok _ from trivial)
      fun a ha ↦ mem_reportResponse ha
    rw [append_assoc] at hset
    exact hset

variable {queue : List LocMsg}

/-- A message is taken that is not about a request. -/
theorem pop {msg : LocMsg} (hq : s.queue = msg :: queue) (hraw : msg.raw = none) :
    Answering acts { s with queue := queue } := by
  have hrequest : msg.request = none := by
    cases msg <;> first | rfl | cases hraw
  refine ⟨?_, h.slots, h.task, fun r hr ↦ ?_, fun raw hsaved ↦ ?_, h.law⟩
  · have hbalance := h.balance
    rw [NiSystem.held, hq, filterMap_cons_none hraw] at hbalance
    exact hbalance
  · rcases hr with hr | ⟨msg', hmsg, hr⟩
    · exact h.sent r (Or.inl hr)
    · exact h.sent r (Or.inr ⟨msg', by rw [hq]; exact mem_cons_of_mem _ hmsg, hr⟩)
  · have hold := h.saved raw hsaved
    rw [hq, filterMap_cons_none hrequest] at hold
    exact hold

/-- The request of a message is disposed of. -/
theorem dispose {msg : LocMsg}
    (hq : s.queue = msg :: queue) {raw : Raw} (hraw : msg.raw = some raw) {a : Action}
    (ha : a.disposes = some raw) (hlaw : Lawful acts a) :
    Answering (acts ++ [a]) { s with queue := queue } := by
  have hreason : ∀ slot, a.reasonOf slot = none := by
    intro slot
    cases a <;> first | rfl | cases ha
  have hmem : ∀ {raw'}, raw' ∈ queue.filterMap LocMsg.request →
      raw' ∈ s.queue.filterMap LocMsg.request := by
    intro raw' hraw'
    rw [hq]
    exact ((sublist_cons_self msg queue).filterMap _).subset hraw'
  refine ⟨h.balance_of_perm ?_ rfl, fun slot ↦ (h.slots slot).append ?_, h.task.append ?_,
    fun r hr ↦ ?_, fun raw' hsaved ↦ ?_, always_concat.mpr ⟨h.law, hlaw⟩⟩
  · have hcons : [a].filterMap Action.disposes = [raw] := by simp [ha]
    rw [hcons, NiSystem.held, NiSystem.held, hq, filterMap_cons_some hraw]
    rfl
  · intro a' ha'
    rw [mem_singleton.mp ha']
    exact hreason slot
  · intro slot a' ha'
    rw [mem_singleton.mp ha']
    exact saveOf_of_reasonOf (hreason slot)
  · have hsend : s.Sends r := by
      rcases hr with hr | ⟨msg', hmsg, hr⟩
      · exact Or.inl hr
      · exact Or.inr ⟨msg', by rw [hq]; exact mem_cons_of_mem _ hmsg, hr⟩
    obtain ⟨slot, htake⟩ := h.sent r hsend
    exact ⟨slot, mem_append_left _ htake⟩
  · obtain ⟨slot, id, timeLeft, hsave⟩ := hsaved
    rcases mem_append.mp hsave with hsave | hsave
    · obtain ⟨hlt, hnot⟩ := h.saved raw' ⟨slot, id, timeLeft, hsave⟩
      exact ⟨hlt, fun hin ↦ hnot (hmem hin)⟩
    · rw [← mem_singleton.mp hsave] at ha
      cases ha

/-- The requests that the adapter has, or has disposed of, are all different. -/
theorem nodup :
    (acts.filterMap Action.disposes ++ s.held).Nodup :=
  (h.balance.nodup_iff).mpr nodup_range

/-- A request is saved in a slot that is empty and in which no response is left over. -/
theorem save {notify : GnssNiNotification} {data : Raw} {emergencyState : LocInEmergency}
    (hq : s.queue = .reportNiNotify notify data emergencyState :: queue) (htask : s.task = .idle)
    (hnone : (s.adapter.mNiData.get slot).rawRequest = none)
    (hrecvd : (s.adapter.mNiData.get slot).respRecvd = false) (client : LocationAPI) :
    Answering (acts ++ [.save slot data s.adapter.nextReqID notify.respTimeLeft,
        .gnssNiCb client s.adapter.nextReqID notify])
      { s with
        queue := queue
        adapter := s.adapter.save slot data notify
        threads := s.threads ++ [⟨slot, .created⟩] } := by
  have hheld : data ∈ acts.filterMap Action.disposes ++ s.held := by
    refine mem_append_right _ (mem_append_left _ ?_)
    rw [hq]
    exact mem_cons_self
  refine ⟨h.balance_of_perm ?_ rfl, fun slot' ↦ ?_, ?_, fun r hr ↦ ?_, fun raw hsaved ↦ ?_, ?_⟩
  · have hraws := s.adapter.mNiData.raws_set slot { s.adapter.mNiData.get slot with
      rawRequest := some data
      reqID := s.adapter.nextReqID
      respTimeLeft := notify.respTimeLeft }
    rw [hnone] at hraws
    rw [perm_iff_count]
    intro raw
    have hr := hraws.count_eq raw
    have hcreated : [(⟨slot, .created⟩ : NiThread)].filterMap NiThread.raw = [] := rfl
    have hmsg : (LocMsg.reportNiNotify notify data emergencyState).raw = some data := rfl
    have hraws' : (s.adapter.save slot data notify).mNiData.raws = (s.adapter.mNiData.set slot
        { s.adapter.mNiData.get slot with
          rawRequest := some data
          reqID := s.adapter.nextReqID
          respTimeLeft := notify.respTimeLeft }).raws := rfl
    have hdisposes : [Action.save slot data s.adapter.nextReqID notify.respTimeLeft,
        .gnssNiCb client s.adapter.nextReqID notify].filterMap Action.disposes = [] := rfl
    rw [hdisposes, NiSystem.held, NiSystem.held, hq, filterMap_cons_some hmsg, hraws',
      filterMap_append, hcreated]
    simp only [toList_none, toList_some, nil_append, List.append_nil,
      count_append, count_cons, count_nil] at hr ⊢
    omega
  · have hthreads : ∀ (f : NiThread → Option (Option ℕ)),
        (s.threads ++ [(⟨slot, .created⟩ : NiThread)]).filterMap f =
          s.threads.filterMap f ++ (f ⟨slot, .created⟩).toList := by
      intro f
      rw [filterMap_append]
      cases hf : f ⟨slot, .created⟩ <;> simp [hf]
    by_cases hslot : slot' = slot
    · subst hslot
      have hactive := h.slots slot'
      rw [SlotOk] at hactive ⊢
      simp only [hnone] at hactive
      have hget : (s.adapter.save slot' data notify).mNiData.get slot' =
          { s.adapter.mNiData.get slot' with
            rawRequest := some data
            reqID := s.adapter.nextReqID
            respTimeLeft := notify.respTimeLeft } := s.adapter.mNiData.get_set_self slot' _
      simp only [hget, NiSystem.active, hthreads, if_true]
      refine ⟨notify.respTimeLeft, ?_, Or.inl ⟨?_, rfl⟩, by simp [hrecvd]⟩
      · rw [append_cons, lastSave_append (by simp [Action.saveOf]), lastSave, latest_concat,
          Action.saveOf, if_pos rfl, some_or]
      · rw [NiSystem.active] at hactive
        rw [hactive]
        rfl
    · have hget : (s.adapter.save slot data notify).mNiData.get slot' =
          s.adapter.mNiData.get slot' := s.adapter.mNiData.get_set_of_ne _ hslot
      simp only [hget, NiSystem.active, hthreads, if_neg (Ne.symm hslot), toList_none,
        List.append_nil]
      refine (h.slots slot').append fun a ha ↦ ?_
      rcases mem_pair.mp ha with rfl | rfl
      · exact if_neg (Ne.symm hslot)
      · rfl
  · rw [htask]
    trivial
  · have hsend : s.Sends r := by
      rcases hr with ⟨t, ht, hr⟩ | ⟨msg, hmsg, hr⟩
      · rcases mem_append.mp ht with ht | ht
        · exact Or.inl ⟨t, ht, hr⟩
        · rw [mem_singleton.mp ht] at hr
          cases hr
      · exact Or.inr ⟨msg, by rw [hq]; exact mem_cons_of_mem _ hmsg, hr⟩
    obtain ⟨slot', htake⟩ := h.sent r hsend
    exact ⟨slot', mem_append_left _ htake⟩
  · obtain ⟨slot', id, timeLeft, hmem⟩ := hsaved
    rcases mem_append.mp hmem with hmem | hmem
    · obtain ⟨hlt, hnot⟩ := h.saved raw ⟨slot', id, timeLeft, hmem⟩
      refine ⟨hlt, fun hin ↦ hnot ?_⟩
      rw [hq]
      exact ((sublist_cons_self _ queue).filterMap _).subset hin
    · obtain rfl : raw = data := by
        rcases mem_pair.mp hmem with heq | heq <;> cases heq
        rfl
      refine ⟨mem_range.mp (h.balance.subset hheld), fun hin ↦ ?_⟩
      -- the request would be twice in the queue
      have hnodup := (nodup_append'.mp h.nodup).2.1
      rw [NiSystem.held, hq] at hnodup
      have hqueue := (nodup_append'.mp hnodup).1
      rw [filterMap_cons_some (show LocMsg.raw _ = some raw from rfl)] at hqueue
      refine (nodup_cons.mp hqueue).1 ?_
      obtain ⟨msg, hmsg, hrequest⟩ := mem_filterMap.mp hin
      refine mem_filterMap.mpr ⟨msg, hmsg, ?_⟩
      cases msg <;> first | exact hrequest | cases hrequest
  · exact always_append.mpr ⟨h.law, .of_forall fun a ha _ ↦ by
      rcases mem_pair.mp ha with rfl | rfl <;> trivial⟩

end

theorem initial (adapter : GnssAdapter) : Answering [] (NiSystem.initial adapter) where
  balance := .nil
  slots slot := by cases slot <;> rfl
  task := trivial
  sent := by simp [NiSystem.Sends, NiSystem.initial]
  saved raw hsaved := by
    obtain ⟨slot, id, timeLeft, hmem⟩ := hsaved
    cases hmem
  law := always_nil _

/-- Where a request is not to be saved in a slot, the modem is answered or it is freed. -/
theorem requestNiNotify (h : Answering acts s) {notify : GnssNiNotification} {data : Raw}
    {emergencyState : LocInEmergency} {queue : List LocMsg} (htask : s.task = .idle)
    (hq : s.queue = .reportNiNotify notify data emergencyState :: queue) {bInformNiAccept : Bool}
    (hclient : s.adapter.niClient = none → notify.type = .emergencySupl ∧ bInformNiAccept = true)
    (hslot : s.adapter.niClient ≠ none → ∀ slot ∈ s.adapter.freeSlot notify.type,
      (s.adapter.mNiData.get slot).respRecvd = false) :
    Answering
      (acts ++ ({ s with queue := queue }.requestNiNotify notify data bInformNiAccept).2)
      ({ s with queue := queue }.requestNiNotify notify data bInformNiAccept).1 := by
  have hnew : ¬WasSaved acts data := by
    intro hsaved
    refine (h.saved data hsaved).2 ?_
    rw [hq]
    exact mem_cons_self
  rw [NiSystem.requestNiNotify]
  split
  · next hnone =>
    have hnone' : s.adapter.niClient = none := hnone
    rw [if_pos (hclient hnone')]
    have hinform := h.dispose hq rfl (a := .informNiResponse .accept data) rfl
      fun hsaved ↦ absurd hsaved hnew
    have htest : (TaskStep.testIgnore (.accepted data) none).Ok
        (acts ++ [.informNiResponse .accept data]) :=
      ⟨fun id timeLeft ↦ ⟨rfl, rfl, by simp⟩, by simp⟩
    have hset := hinform.setTask [] htest (by simp)
    rw [List.append_nil] at hset
    exact hset
  · next client hsome =>
    have hne : s.adapter.niClient ≠ none := by
      have hsome' : s.adapter.niClient = some client := hsome
      simp [hsome']
    split
    · exact h.dispose hq rfl rfl fun hsaved ↦ absurd hsaved hnew
    · next slot hfree =>
      have hfree' : s.adapter.freeSlot notify.type = some slot := hfree
      refine h.save hq htask ?_ (hslot hne slot hfree') client
      rw [GnssAdapter.freeSlot] at hfree'
      split at hfree' <;> split at hfree' <;> cases hfree'
      · next hes => exact not_not.mp hes
      · next hboth => exact not_not.mp (not_or.mp hboth).1

/-- The message task begins with a message. -/
theorem proc (h : Answering acts s) {msg : LocMsg} {queue : List LocMsg} (htask : s.task = .idle)
    (hq : s.queue = msg :: queue) (hsafe : msg.Safe s.adapter) :
    Answering (acts ++ ({ s with queue := queue }.proc msg).2)
      ({ s with queue := queue }.proc msg).1 := by
  cases msg with
  | informNiResponse response raw =>
    refine h.dispose hq rfl rfl fun _ ↦ h.sent (response, raw)
      (Or.inr ⟨.informNiResponse response raw, ?_, rfl⟩)
    rw [hq]
    exact mem_cons_self
  | gnssNiResponse client id response =>
    have hpop := h.pop hq rfl
    rw [NiSystem.proc]
    split
    · exact hpop.setTask _ h.task fun a ha ↦ mem_reportResponse ha
    split
    · next hid =>
      obtain ⟨raw, timeLeft, hsave⟩ := h.ok_of_isActive hid
      refine hpop.setTask [] ?_ (by simp)
      split
      · refine ⟨fun id' timeLeft' ↦ ⟨rfl, rfl, raw, timeLeft, mem_of_lastSave hsave⟩, ?_⟩
        rintro r ⟨⟩
        exact ⟨raw, timeLeft, hsave⟩
      · exact ⟨raw, timeLeft, hsave⟩
    · exact hpop.setTask [] trivial (by simp)
  | reportNiNotify notify data emergencyState =>
    rw [NiSystem.proc]
    split
    · refine h.dispose hq rfl rfl fun hsaved ↦ absurd ?_ (h.saved data hsaved).2
      rw [hq]
      exact mem_cons_self
    · next bInformNiAccept hdecision =>
      obtain ⟨hclient, hslot⟩ := hsafe bInformNiAccept hdecision
      exact h.requestNiNotify htask hq hclient hslot

theorem step (h : Answering acts s) {e : Event} (hsafe : s.NextSafe e)
    (hs : s.step e = some (s', acts')) : Answering (acts ++ acts') s' := by
  cases e with
  | requestNiNotifyEvent notify emergencyState =>
    obtain ⟨rfl, rfl⟩ := some_pair_inj hs
    rw [List.append_nil]
    refine ⟨?_, h.slots, h.task, fun r hr ↦ ?_, fun raw hsaved ↦ ?_, h.law⟩
    · rw [NiSystem.held, filterMap_append, range_succ]
      have hbalance := h.balance
      rw [perm_iff_count] at hbalance ⊢
      intro raw
      have hraw := hbalance raw
      simp only [NiSystem.held, count_append, filterMap_cons, filterMap_nil,
        LocMsg.raw] at hraw ⊢
      omega
    · rcases hr with hr | ⟨msg, hmsg, hr⟩
      · exact h.sent r (Or.inl hr)
      · rcases mem_append.mp hmsg with hmsg | hmsg
        · exact h.sent r (Or.inr ⟨msg, hmsg, hr⟩)
        · rw [mem_singleton.mp hmsg] at hr
          cases hr
    · obtain ⟨hlt, hnot⟩ := h.saved raw hsaved
      refine ⟨Nat.lt_succ_of_lt hlt, ?_⟩
      rw [filterMap_append, mem_append, not_or]
      exact ⟨hnot, fun hmem ↦ hlt.ne (mem_singleton.mp hmem)⟩
  | gnssNiResponseCommand client id response =>
    obtain ⟨rfl, rfl⟩ := some_pair_inj hs
    rw [List.append_nil]
    refine ⟨?_, h.slots, h.task, fun r hr ↦ ?_, fun raw hsaved ↦ ?_, h.law⟩
    · have hnil : [LocMsg.gnssNiResponse client id response].filterMap LocMsg.raw = [] := rfl
      rw [NiSystem.held, filterMap_append, hnil, List.append_nil]
      exact h.balance
    · rcases hr with hr | ⟨msg, hmsg, hr⟩
      · exact h.sent r (Or.inl hr)
      · rcases mem_append.mp hmsg with hmsg | hmsg
        · exact h.sent r (Or.inr ⟨msg, hmsg, hr⟩)
        · rw [mem_singleton.mp hmsg] at hr
          cases hr
    · have hold := h.saved raw hsaved
      rw [filterMap_append]
      simpa [LocMsg.request] using hold
  | proc =>
    rw [NiSystem.step] at hs
    split at hs
    · next msg queue htask hq =>
      have hsafe' : msg.Safe s.adapter := hsafe msg (by rw [hq]; rfl)
      have hproc := h.proc htask hq hsafe'
      rw [some_inj.mp hs] at hproc
      exact hproc
    · cases hs
  | resume => exact h.resume hs
  | run i =>
    obtain ⟨⟨slot, pc⟩, hi, hrun⟩ := Option.bind_eq_some_iff.mp hs
    exact h.run hi (hsafe _ hi) hrun
  | timeOut i =>
    obtain ⟨⟨slot, pc⟩, hi, hrun⟩ := Option.bind_eq_some_iff.mp hs
    cases pc with
    | waiting timeLeft =>
      have htimeOut := h.timeOut hi
      rw [some_inj.mp hrun] at htimeOut
      exact htimeOut
    | _ => cases hrun
  | configure config =>
    obtain ⟨rfl, rfl⟩ := some_pair_inj hs
    rw [List.append_nil]
    exact ⟨h.balance, h.slots, h.task, h.sent, h.saved, h.law⟩

end Answering

/-! ## The law -/

namespace NiSystem

/-- In a run in which no request is dropped, no response is left over where a request is saved and
no thread clears what another request needs, a request is given back or freed at most once and, once
everything is done, exactly once; every answer is the request's own; and a slot that holds a request
has the id under which it was saved. -/
theorem niAnswered_of_run {adapter : GnssAdapter} {hist : List (Item Event Action)} {s : NiSystem}
    (h : Run step NextSafe (initial adapter) hist s) :
    (∀ raw, ((outsOf hist).filterMap Action.disposes).count raw ≤ 1) ∧
    (s.Quiet → ∀ raw < s.requests, ((outsOf hist).filterMap Action.disposes).count raw = 1) ∧
    Always Lawful (outsOf hist) ∧
    ∀ slot raw, (s.adapter.mNiData.get slot).rawRequest = some raw →
      ∃ timeLeft, lastSave slot (outsOf hist) =
        some (raw, (s.adapter.mNiData.get slot).reqID, timeLeft) := by
  have ha : Answering (outsOf hist) s := by
    refine h.invariant (I := fun hist s ↦ Answering (outsOf hist) s) (.initial adapter)
      fun ha hg hs ↦ ?_
    rw [outsOf_append_entry]
    exact ha.step hg hs
  refine ⟨fun raw ↦ ?_, fun hq raw hraw ↦ ?_, ha.law, fun slot raw hraw ↦ ?_⟩
  · exact nodup_iff_count_le_one.mp (nodup_append'.mp ha.nodup).1 raw
  · obtain ⟨hqueue, -, hexited⟩ := hq
    have hactive : ∀ slot, s.active slot = [] := fun slot ↦
      filterMap_eq_nil_iff.mpr fun t ht ↦ by rw [hexited t ht]; exact ite_self _
    have hnone : ∀ slot, (s.adapter.mNiData.get slot).rawRequest = none := by
      intro slot
      by_contra hne
      obtain ⟨raw, hraw⟩ := Option.ne_none_iff_exists'.mp hne
      have hslot := ha.slots slot
      rw [SlotOk, hactive slot] at hslot
      simp only [hraw] at hslot
      obtain ⟨timeLeft, -, hactive', -⟩ := hslot
      rcases hactive' with ⟨hnil, -⟩ | hnil <;> cases hnil
    have hraws : s.adapter.mNiData.raws = [] := by
      have hsession : s.adapter.mNiData.session.rawRequest = none := hnone .session
      have hsessionEs : s.adapter.mNiData.sessionEs.rawRequest = none := hnone .sessionEs
      rw [NiData.raws, hsession, hsessionEs]
      rfl
    have hthreads : s.threads.filterMap NiThread.raw = [] :=
      filterMap_eq_nil_iff.mpr fun t ht ↦ by rw [NiThread.raw, hexited t ht]; rfl
    have hbalance := ha.balance
    rw [NiSystem.held, hqueue, hraws, hthreads] at hbalance
    simp only [filterMap_nil, List.append_nil] at hbalance
    rw [hbalance.count_eq, count_eq_one_of_mem nodup_range (mem_range.mpr hraw)]
  · have hslot := ha.slots slot
    rw [SlotOk] at hslot
    simp only [hraw] at hslot
    obtain ⟨timeLeft, hsave, -⟩ := hslot
    exact ⟨timeLeft, hsave⟩

/-- An adapter with one client, which can be asked, and no locks. -/
def sampleAdapter : GnssAdapter where
  mClientData := OrderedMap.empty.insert 1 ⟨true, true⟩
  mNiData := ⟨.zero, .zero, 0⟩
  mSupportNfwControl := true
  mAfwControlId := 0
  e911State := false
  gpsLock := 0
  niSuplDenyOnNfwLocked := 1
  suplEs := 1
  cpMtlrEs := 0

/-- A request that is ignored for an emergency, the emergency request that the user accepts, and a
request for which the time runs out. -/
theorem niAnswered_of_run_three :
    ∃ hist s, Run step NextSafe (initial sampleAdapter) hist s ∧ s.requests = 3 ∧
      ∀ raw < 3, ((outsOf hist).filterMap Action.disposes).count raw = 1 := by
  obtain ⟨hist, s, hrun, hq, hrequests⟩ :=
    Run.exists_of_runEvents step NextSafe (initial sampleAdapter)
    [.requestNiNotifyEvent ⟨.supl, 3, 0⟩ .unknown, .proc, .run 0,
      .requestNiNotifyEvent ⟨.emergencySupl, 3, 10⟩ .set, .proc, .run 1,
      .gnssNiResponseCommand 1 2 .accept, .proc, .resume, .resume, .resume,
      .run 0, .run 1, .run 0, .run 0, .run 0, .run 1, .run 1, .run 1, .proc,
      .requestNiNotifyEvent ⟨.controlPlane, 3, 0⟩ .notSet, .proc, .run 2, .timeOut 2,
      .run 2, .run 2, .run 2, .proc]
    (fun _ s ↦ s.Quiet ∧ s.requests = 3) (by decide +kernel)
  exact ⟨hist, s, hrun, hrequests, hrequests ▸ (niAnswered_of_run hrun).2.1 hq⟩

/-- A request that no client can be asked about is dropped; a thread clears the id of the next
request in its slot; and a response that comes after the time has run out is the answer to the next
request. -/
theorem not_niAnswered :
    (∃ hist s, Run step (fun _ _ ↦ True)
        (initial { sampleAdapter with mClientData := .empty }) hist s ∧ s.Quiet ∧
      s.requests = 1 ∧ ((outsOf hist).filterMap Action.disposes).count 0 = 0) ∧
    (∃ hist s, Run step (fun _ _ ↦ True) (initial sampleAdapter) hist s ∧
      (s.adapter.mNiData.get .session).rawRequest = some 1 ∧
      (s.adapter.mNiData.get .session).reqID = 0 ∧
      lastSave .session (outsOf hist) = some (1, 2, 25)) ∧
    ∃ hist s, Run step (fun _ _ ↦ True) (initial sampleAdapter) hist s ∧
      .informNiResponse .accept 1 ∈ outsOf hist ∧ ¬Always Lawful (outsOf hist) := by
  refine ⟨?_, ?_, ?_⟩
  · exact Run.exists_of_decide [.requestNiNotifyEvent ⟨.supl, 3, 0⟩ .unknown, .proc]
      (by decide +kernel)
  · exact Run.exists_of_decide
      [.requestNiNotifyEvent ⟨.supl, 3, 0⟩ .unknown, .proc, .run 0, .timeOut 0,
        .requestNiNotifyEvent ⟨.supl, 3, 0⟩ .unknown, .proc, .run 0, .run 0] (by decide +kernel)
  · obtain ⟨hist, s, hrun, hs⟩ := Run.exists_of_runEvents step (fun _ _ ↦ True)
      (initial sampleAdapter)
      [.requestNiNotifyEvent ⟨.supl, 3, 0⟩ .unknown, .proc, .run 0,
        .gnssNiResponseCommand 1 1 .accept, .proc, .resume, .timeOut 0, .resume,
        .run 0, .run 0, .run 0, .proc,
        .requestNiNotifyEvent ⟨.supl, 3, 0⟩ .unknown, .proc, .run 1, .run 1, .run 1, .run 1, .proc]
      (fun hist _ ↦ outsOf hist =
        [.save .session 0 1 25, .gnssNiCb 1 1 ⟨.supl, 3, 0⟩, .timeOut .session 25,
          .take .session 0 .noResponse, .put .session (.response 1) .accept,
          .responseCb 1 .success 1, .informNiResponse .noResponse 0, .save .session 1 2 25,
          .gnssNiCb 1 2 ⟨.supl, 3, 0⟩] ++
        .take .session 1 .accept :: [.informNiResponse .accept 1]) (by decide +kernel)
    have houts := hs
    refine ⟨hist, s, hrun, by rw [houts]; decide, fun halways ↦ ?_⟩
    obtain ⟨id, timeLeft, reason, -, hreason, -⟩ := halways _ _ _ houts
    have hnone : lastReason .session
        [.save .session 0 1 25, .gnssNiCb 1 1 ⟨.supl, 3, 0⟩, .timeOut .session 25,
          .take .session 0 .noResponse, .put .session (.response 1) .accept,
          .responseCb 1 .success 1, .informNiResponse .noResponse 0, .save .session 1 2 25,
          .gnssNiCb 1 2 ⟨.supl, 3, 0⟩] = some none := rfl
    rw [hnone] at hreason
    cases hreason

end NiSystem

end MataDevice.Ni
