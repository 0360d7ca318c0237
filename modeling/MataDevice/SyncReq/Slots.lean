import MataDevice.Lib.History

/-!
# Synchronous requests to the modem

`loc_sync_send_req` makes a synchronous call of an asynchronous interface: it takes one of a few
slots, writes into it which indication it waits for, sends the request and waits. Indications come
in on another thread, where `loc_sync_process_ind` looks for the slots that wait for them.

A step is what a thread does under `loc_sync_call_mutex` or under the lock of a slot. A call in
progress holds one slot, from `loc_alloc_slot` to `loc_free_slot`, so that the place the call has
reached is kept with the slot. `pthread_cond_timedwait` is three steps: the thread blocks; it is
unblocked by a signal or by the clock; it gets the lock of the slot back. A signal unblocks a thread
that is blocked, and is lost otherwise.

`loc_sync_process_ind` takes the locks of the slots one after the other. A step of a call touches
the slot of the call only, so that it comes before the loop or after it, and the loop is one step.
-/

namespace MataDevice.SyncReq

open List
open Option (some_inj ite_none_right_eq_some)

/-- `locClientStatusEnumType`. -/
inductive ClientStatus
  | success
  | failureGeneral
  | failureUnsupported
  | failureInvalidParameter
  | failureEngineBusy
  | failurePhoneOffline
  | failureTimeout
  | failureServiceNotPresent
  | failureServiceVersionUnsupported
  | failureClientVersionUnsupported
  | failureInvalidHandle
  | failureInternal
  | failureNotInitialized
  | failureNotEnoughMemory
  | failureInvalidMessageId
  deriving DecidableEq, Repr

/-- The arguments of a call that matter here. Handles and pointers are numbers; a null payload
pointer is `none`. -/
structure Request where
  clientHandle : ℕ
  reqId : ℕ
  indId : ℕ
  indPayloadPtr : Option ℕ
  deriving DecidableEq, Repr

/-- The arguments of `loc_sync_process_ind`. A null payload is an empty one. -/
structure Indication where
  clientHandle : ℕ
  indId : ℕ
  indPayload : List UInt8
  deriving DecidableEq, Repr

/-- The place a call has reached. -/
inductive Place
  /-- It has a slot, from `loc_alloc_slot`. -/
  | allocated
  /-- `loc_sync_select_ind` has returned. -/
  | selected
  /-- `locClientSendReq` has succeeded. -/
  | sent
  /-- In `pthread_cond_timedwait`. -/
  | waiting
  /-- Unblocked by the clock. -/
  | timedOut
  /-- The status is known, and the slot is still to be given back. -/
  | finished (status : ClientStatus)
  deriving DecidableEq, Repr

structure Call where
  thread : ℕ
  req : Request
  place : Place
  deriving DecidableEq, Repr

/-- A condition variable with one thread at most: nobody waits, a thread is blocked, or it has been
signalled. -/
inductive Cond
  | idle
  | blocked
  | signalled
  deriving DecidableEq, Repr

def Cond.signal : Cond → Cond
  | .blocked => .signalled
  | cond => cond

/-- `LOC_CLIENT_INVALID_HANDLE_VALUE`, the null pointer. -/
def locClientInvalidHandleValue : ℕ := 0

/-- `loc_sync_req_data_s_type`, with its `slot_in_use` and the call that holds it. -/
structure Slot where
  slotInUse : Bool
  clientHandle : ℕ
  indArrivedCond : Cond
  indIsSelected : Bool
  indIsWaiting : Bool
  indHasArrived : Bool
  reqId : ℕ
  recvIndPayloadPtr : Option ℕ
  recvIndId : ℕ
  call : Option Call
  deriving DecidableEq, Repr

/-- What `loc_sync_req_init` and `loc_free_slot` leave. -/
def Slot.free : Slot :=
  ⟨false, locClientInvalidHandleValue, .idle, false, false, false, 0, none, 0, none⟩

/-- `LOC_SYNC_REQ_BUFFER_SIZE`. -/
def locSyncReqBufferSize : ℕ := 8

/-- `loc_sync_req_array_s_type`. -/
structure SyncArray where
  inUse : Bool
  slots : List Slot
  deriving DecidableEq, Repr

/-- The steps of a call between `loc_alloc_slot` and `loc_free_slot`. -/
inductive Op
  /-- `loc_sync_select_ind` fills the slot. -/
  | select
  /-- `locClientSendReq` returns. -/
  | sendReq (status : ClientStatus)
  /-- `loc_sync_wait_for_ind` up to the wait. -/
  | wait
  /-- The thread comes back after a signal. -/
  | wake
  /-- The wait expires. -/
  | expire
  /-- The thread comes back after the wait has expired. -/
  | relock
  deriving DecidableEq, Repr

inductive Event
  /-- A thread calls `loc_sync_send_req`, up to the end of `loc_alloc_slot`. -/
  | allocSlot (thread : ℕ) (req : Request)
  /-- A step of the call that holds a slot. -/
  | op (thread slot : ℕ) (op : Op)
  /-- `loc_free_slot`, and the return of the call. -/
  | freeSlot (thread slot : ℕ)
  /-- `loc_sync_process_ind`. -/
  | processInd (ind : Indication)
  deriving DecidableEq, Repr

inductive Output
  /-- `loc_sync_send_req` has returned. -/
  | returned (thread : ℕ) (req : Request) (status : ClientStatus)
  /-- The slots an indication was found to be for, in their order. -/
  | found (ind : Indication) (slots : List ℕ)
  deriving DecidableEq, Repr

namespace Slot

variable (slot : Slot)

/-- The slot waits for the indication. -/
def Selects (ind : Indication) : Prop :=
  slot.slotInUse = true ∧ slot.clientHandle = ind.clientHandle ∧ ind.indId = slot.recvIndId ∧
    slot.indHasArrived = false

instance (ind : Indication) : Decidable (slot.Selects ind) := inferInstanceAs (Decidable (_ ∧ _))

/-- The payload is copied, and with it the indication is consumed. -/
def Consumes (ind : Indication) : Prop :=
  slot.recvIndPayloadPtr ≠ none ∧ ind.indPayload ≠ []

instance (ind : Indication) : Decidable (slot.Consumes ind) := inferInstanceAs (Decidable (_ ∧ _))

/-- What `loc_sync_process_ind` does with a slot that waits for the indication. -/
def receive (ind : Indication) : Slot :=
  if slot.indIsWaiting then
    { slot with recvIndId := ind.indId, indArrivedCond := slot.indArrivedCond.signal }
  else { slot with indHasArrived := true }

/-- A step of the call that holds the slot. -/
def advance (c : Call) : Op → Option Slot
  | .select =>
    if c.place = .allocated then
      some { slot with
        clientHandle := c.req.clientHandle
        indIsSelected := true
        indIsWaiting := false
        indHasArrived := false
        recvIndId := c.req.indId
        reqId := c.req.reqId
        recvIndPayloadPtr := c.req.indPayloadPtr
        call := some { c with place := .selected } }
    else none
  | .sendReq status =>
    if c.place = .selected then
      some { slot with
        call := some { c with place := if status = .success then .sent else .finished status } }
    else none
  | .wait =>
    if c.place = .sent then
      if slot.indHasArrived then
        some { slot with call := some { c with place := .finished .success } }
      else if slot.indIsWaiting then
        -- `-EBUSY`
        some { slot with call := some { c with place := .finished .failureInternal } }
      else
        some { slot with
          indIsWaiting := true
          indArrivedCond := .blocked
          call := some { c with place := .waiting } }
    else none
  | .wake =>
    if c.place = .waiting ∧ slot.indArrivedCond = .signalled then
      some { slot with
        indIsWaiting := false
        indArrivedCond := .idle
        call := some { c with place := .finished .success } }
    else none
  | .expire =>
    if c.place = .waiting ∧ slot.indArrivedCond = .blocked then
      some { slot with indArrivedCond := .idle, call := some { c with place := .timedOut } }
    else none
  | .relock =>
    if c.place = .timedOut then
      some { slot with
        indIsWaiting := false, call := some { c with place := .finished .failureTimeout } }
    else none

end Slot

/-- The loop of `loc_sync_process_ind`: the slots after it, those it found, from an index on, and
whether it has seen one in use. -/
def processSlots (ind : Indication) : List Slot → ℕ → List Slot × List ℕ × Bool
  | [], _ => ([], [], false)
  | slot :: slots, i =>
    if slot.Selects ind then
      if slot.Consumes ind then (slot.receive ind :: slots, [i], slot.slotInUse)
      else
        let (slots', found, inUse) := processSlots ind slots (i + 1)
        (slot.receive ind :: slots', i :: found, slot.slotInUse || inUse)
    else
      let (slots', found, inUse) := processSlots ind slots (i + 1)
      (slot :: slots', found, slot.slotInUse || inUse)

namespace SyncArray

/-- After `loc_sync_req_init`. -/
def initial : SyncArray := ⟨false, List.replicate locSyncReqBufferSize .free⟩

variable (s : SyncArray)

/-- The thread is inside a call. -/
def Calling (thread : ℕ) : Prop := ∃ slot ∈ s.slots, ∃ c ∈ slot.call, c.thread = thread

instance (thread : ℕ) : Decidable (s.Calling thread) :=
  inferInstanceAs (Decidable (∃ slot ∈ s.slots, ∃ c ∈ slot.call, _))

/-- `loc_alloc_slot`. The call returns at once, with the status it starts with, if the buffer is
full. -/
def allocSlot (thread : ℕ) (req : Request) : SyncArray × List Output :=
  match s.slots.findIdx? (!·.slotInUse) with
  | some i =>
    (⟨true, s.slots.modify i fun slot ↦
      { slot with slotInUse := true, call := some ⟨thread, req, .allocated⟩ }⟩, [])
  | none => (s, [.returned thread req .success])

def processInd (ind : Indication) : SyncArray × List Output :=
  if s.inUse then
    let (slots, found, inUse) := processSlots ind s.slots 0
    (⟨s.inUse && inUse, slots⟩, [.found ind found])
  else (s, [.found ind []])

/-- A step. It is refused where the thread is not at that point of its call, or would block. -/
def step : Event → Option (SyncArray × List Output)
  | .allocSlot thread req => if s.Calling thread then none else some (s.allocSlot thread req)
  | .op thread i op =>
    match s.slots[i]? with
    | some slot =>
      match slot.call with
      | some c =>
        if c.thread = thread then
          (slot.advance c op).map fun slot' ↦ ({ s with slots := s.slots.set i slot' }, [])
        else none
      | none => none
    | none => none
  | .freeSlot thread i =>
    match s.slots[i]? with
    | some slot =>
      match slot.call with
      | some ⟨thread', req, .finished status⟩ =>
        if thread' = thread then
          let slots := s.slots.set i { Slot.free with indArrivedCond := slot.indArrivedCond }
          some (⟨s.inUse && slots.any (·.slotInUse), slots⟩, [.returned thread req status])
        else none
      | _ => none
    | none => none
  | .processInd ind => some (s.processInd ind)

end SyncArray

/-! ## What a slot says about its call -/

namespace Slot

/-- What the fields of a slot say about the call that holds it. -/
structure Holds (slot : Slot) (c : Call) : Prop where
  inUse : slot.slotInUse = true
  selected : c.place ≠ .allocated →
    slot.clientHandle = c.req.clientHandle ∧ slot.recvIndId = c.req.indId
  isWaiting : slot.indIsWaiting = true → c.place = .waiting ∨ c.place = .timedOut
  cond : slot.indArrivedCond ≠ .idle → c.place = .waiting

/-- A slot is free, or held by a call. -/
structure Ok (slot : Slot) : Prop where
  free : slot.call = none → slot = Slot.free
  holds : ∀ c, slot.call = some c → slot.Holds c

variable {slot slot' : Slot} {c : Call} {op : Op} {ind : Indication}

theorem ok_free : Slot.free.Ok := ⟨fun _ ↦ rfl, by simp [Slot.free]⟩

theorem Holds.ok (h : slot.Holds c) (hcall : slot.call = some c) : slot.Ok := by
  refine ⟨fun hnone ↦ ?_, fun c' hc' ↦ ?_⟩
  · rw [hcall] at hnone
    cases hnone
  · obtain rfl := some_inj.mp (hcall.symm.trans hc')
    exact h

/-- A step of the call keeps its thread and its request. -/
theorem Holds.advance (h : slot.Holds c) (hs : slot.advance c op = some slot') :
    ∃ place, slot'.call = some { c with place := place } ∧
      slot'.Holds { c with place := place } := by
  cases op with
  | select =>
    obtain ⟨hplace, heq⟩ := ite_none_right_eq_some.mp hs
    obtain rfl := some_inj.mp heq
    refine ⟨_, rfl, h.inUse, fun _ ↦ ⟨rfl, rfl⟩, by simp, fun hcond ↦ ?_⟩
    rw [h.cond hcond] at hplace
    cases hplace
  | sendReq status =>
    obtain ⟨hplace, heq⟩ := ite_none_right_eq_some.mp hs
    obtain rfl := some_inj.mp heq
    have hselected := h.selected (by simp [hplace])
    refine ⟨_, rfl, h.inUse, fun _ ↦ hselected, fun hwaiting ↦ ?_, fun hcond ↦ ?_⟩
    · simpa [hplace] using h.isWaiting hwaiting
    · simpa [hplace] using h.cond hcond
  | wait =>
    obtain ⟨hplace, hs⟩ := ite_none_right_eq_some.mp hs
    have hselected := h.selected (by simp [hplace])
    have hwaiting : slot.indIsWaiting = false := by
      by_contra hw
      rw [Bool.not_eq_false] at hw
      simpa [hplace] using h.isWaiting hw
    have hcond : slot.indArrivedCond = .idle := by
      by_contra hc
      simpa [hplace] using h.cond hc
    rw [hwaiting] at hs
    split at hs
    · obtain rfl := some_inj.mp hs
      exact ⟨_, rfl, h.inUse, fun _ ↦ hselected, by simp, by simp [hcond]⟩
    · obtain rfl := some_inj.mp hs
      exact ⟨_, rfl, h.inUse, fun _ ↦ hselected, fun _ ↦ Or.inl rfl, fun _ ↦ rfl⟩
  | wake =>
    obtain ⟨⟨hplace, -⟩, heq⟩ := ite_none_right_eq_some.mp hs
    obtain rfl := some_inj.mp heq
    exact ⟨_, rfl, h.inUse, fun _ ↦ h.selected (by simp [hplace]), by simp, by simp⟩
  | expire =>
    obtain ⟨⟨hplace, -⟩, heq⟩ := ite_none_right_eq_some.mp hs
    obtain rfl := some_inj.mp heq
    exact ⟨_, rfl, h.inUse, fun _ ↦ h.selected (by simp [hplace]), fun _ ↦ Or.inr rfl, by simp⟩
  | relock =>
    obtain ⟨hplace, heq⟩ := ite_none_right_eq_some.mp hs
    obtain rfl := some_inj.mp heq
    refine ⟨_, rfl, h.inUse, fun _ ↦ h.selected (by simp [hplace]), by simp, fun hcond ↦ ?_⟩
    simpa [hplace] using h.cond hcond

@[simp] theorem receive_call : (slot.receive ind).call = slot.call := by
  rw [receive]
  split
  · rfl
  · rfl

@[simp] theorem receive_slotInUse : (slot.receive ind).slotInUse = slot.slotInUse := by
  rw [receive]
  split
  · rfl
  · rfl

theorem Holds.receive (h : slot.Holds c) (hsel : slot.Selects ind) :
    (slot.receive ind).Holds c := by
  rw [Slot.receive]
  split
  · refine ⟨h.inUse, fun hplace ↦ ⟨(h.selected hplace).1, ?_⟩, h.isWaiting, fun hcond ↦ ?_⟩
    · exact hsel.2.2.1.trans (h.selected hplace).2
    · refine h.cond fun hidle ↦ hcond ?_
      simp only [hidle, Cond.signal]
  · exact ⟨h.inUse, h.selected, h.isWaiting, h.cond⟩

theorem Ok.receive (h : slot.Ok) (hsel : slot.Selects ind) : (slot.receive ind).Ok := by
  refine ⟨fun hnone ↦ ?_, fun c hc ↦ ?_⟩
  · -- a free slot is not in use
    rw [receive_call] at hnone
    have hinUse := hsel.1
    rw [h.free hnone] at hinUse
    cases hinUse
  · rw [receive_call] at hc
    exact (h.holds c hc).receive hsel

end Slot

/-! ## The loop over the slots -/

section Process

variable {ind : Indication} {slot : Slot}

theorem processSlots_cons_of_not (h : ¬slot.Selects ind) (slots : List Slot) (k : ℕ) :
    processSlots ind (slot :: slots) k =
      (slot :: (processSlots ind slots (k + 1)).1, (processSlots ind slots (k + 1)).2.1,
        slot.slotInUse || (processSlots ind slots (k + 1)).2.2) := by
  rw [processSlots, if_neg h]

theorem processSlots_cons_of_consumes (h : slot.Selects ind) (hc : slot.Consumes ind)
    (slots : List Slot) (k : ℕ) :
    processSlots ind (slot :: slots) k = (slot.receive ind :: slots, [k], slot.slotInUse) := by
  rw [processSlots, if_pos h, if_pos hc]

theorem processSlots_cons_of_selects (h : slot.Selects ind) (hc : ¬slot.Consumes ind)
    (slots : List Slot) (k : ℕ) :
    processSlots ind (slot :: slots) k =
      (slot.receive ind :: (processSlots ind slots (k + 1)).1,
        k :: (processSlots ind slots (k + 1)).2.1,
        slot.slotInUse || (processSlots ind slots (k + 1)).2.2) := by
  rw [processSlots, if_pos h, if_neg hc]

theorem le_of_mem_found {slots : List Slot} {k j : ℕ}
    (h : j ∈ (processSlots ind slots k).2.1) : k ≤ j := by
  induction slots generalizing k with
  | nil => simp [processSlots] at h
  | cons slot slots ih =>
    by_cases hsel : slot.Selects ind
    · by_cases hc : slot.Consumes ind
      · rw [processSlots_cons_of_consumes hsel hc, mem_singleton] at h
        exact h.ge
      · rw [processSlots_cons_of_selects hsel hc, mem_cons] at h
        rcases h with rfl | h
        · exact le_rfl
        · exact (Nat.le_succ k).trans (ih h)
    · rw [processSlots_cons_of_not hsel] at h
      exact (Nat.le_succ k).trans (ih h)

/-- The loop only finds slots that wait for the indication. -/
theorem selects_of_mem_found {slots : List Slot} {k i : ℕ}
    (h : k + i ∈ (processSlots ind slots k).2.1) :
    ∃ slot, slots[i]? = some slot ∧ slot.Selects ind := by
  induction slots generalizing k i with
  | nil => simp [processSlots] at h
  | cons slot slots ih =>
    -- a slot further on is found by the rest of the loop
    have hrest : k + i ∈ (processSlots ind slots (k + 1)).2.1 →
        ∃ slot', (slot :: slots)[i]? = some slot' ∧ slot'.Selects ind := by
      intro hmem
      have hle := le_of_mem_found hmem
      obtain ⟨i, rfl⟩ : ∃ i', i = i' + 1 := ⟨i - 1, by omega⟩
      rw [show k + (i + 1) = k + 1 + i by omega] at hmem
      rw [getElem?_cons_succ]
      exact ih hmem
    by_cases hsel : slot.Selects ind
    · have hfirst : k + i = k → ∃ slot', (slot :: slots)[i]? = some slot' ∧ slot'.Selects ind := by
        intro heq
        obtain rfl : i = 0 := by omega
        exact ⟨slot, rfl, hsel⟩
      by_cases hc : slot.Consumes ind
      · rw [processSlots_cons_of_consumes hsel hc, mem_singleton] at h
        exact hfirst h
      · rw [processSlots_cons_of_selects hsel hc, mem_cons] at h
        exact h.elim hfirst hrest
    · rw [processSlots_cons_of_not hsel] at h
      exact hrest h

/-- The loop changes the slots it finds, and only these. -/
theorem processSlots_getElem? (slots : List Slot) (k i : ℕ) :
    (processSlots ind slots k).1[i]? =
      slots[i]?.map fun slot ↦ if k + i ∈ (processSlots ind slots k).2.1 then slot.receive ind
        else slot := by
  induction slots generalizing k i with
  | nil => simp [processSlots]
  | cons slot slots ih =>
    have hnot : k ∉ (processSlots ind slots (k + 1)).2.1 := by
      intro hmem
      exact absurd (le_of_mem_found hmem) (by omega)
    by_cases hsel : slot.Selects ind
    · by_cases hc : slot.Consumes ind
      · rw [processSlots_cons_of_consumes hsel hc]
        cases i with
        | zero => simp
        | succ i => simp
      · rw [processSlots_cons_of_selects hsel hc]
        cases i with
        | zero => simp
        | succ i =>
          rw [getElem?_cons_succ, getElem?_cons_succ, ih]
          simp only [mem_cons, show k + (i + 1) = k + 1 + i by omega,
            show ¬k + 1 + i = k by omega, false_or]
    · rw [processSlots_cons_of_not hsel]
      cases i with
      | zero => simp [hnot]
      | succ i =>
        rw [getElem?_cons_succ, getElem?_cons_succ, ih]
        simp only [show k + (i + 1) = k + 1 + i by omega]

theorem processSlots_inUse (slots : List Slot) (k : ℕ) :
    (processSlots ind slots k).2.2 = slots.any (·.slotInUse) := by
  induction slots generalizing k with
  | nil => rfl
  | cons slot slots ih =>
    by_cases hsel : slot.Selects ind
    · by_cases hc : slot.Consumes ind
      · rw [processSlots_cons_of_consumes hsel hc, any_cons, hsel.1, Bool.true_or]
      · rw [processSlots_cons_of_selects hsel hc, any_cons, ih]
    · rw [processSlots_cons_of_not hsel, any_cons, ih]

end Process

/-! ## What a step can do -/

namespace SyncArray

variable {s s' : SyncArray} {thread i : ℕ} {req : Request} {op : Op} {ind : Indication}
  {outs : List Output}

/-- A call finds a free slot, or returns at once. -/
theorem allocSlot_of_step (h : s.step (.allocSlot thread req) = some (s', outs)) :
    ¬s.Calling thread ∧
      ((∃ i slot, s.slots[i]? = some slot ∧ slot.slotInUse = false ∧ outs = [] ∧
          s' = ⟨true, s.slots.set i
            { slot with slotInUse := true, call := some ⟨thread, req, .allocated⟩ }⟩) ∨
        ((∀ slot ∈ s.slots, slot.slotInUse = true) ∧ s' = s ∧
          outs = [.returned thread req .success])) := by
  obtain ⟨hcalling, heq⟩ := Option.ite_none_left_eq_some.mp h
  refine ⟨hcalling, ?_⟩
  rw [some_inj, allocSlot] at heq
  split at heq
  · next i hfind =>
    obtain ⟨hi, hfree, -⟩ := findIdx?_eq_some_iff_getElem.mp hfind
    obtain ⟨rfl, rfl⟩ := Prod.mk.inj heq
    refine Or.inl ⟨i, s.slots[i], getElem?_eq_getElem hi, by simpa using hfree, rfl, ?_⟩
    rw [modify_eq_set_getElem?, getElem?_eq_getElem hi]
    rfl
  · next hfind =>
    obtain ⟨rfl, rfl⟩ := Prod.mk.inj heq
    exact Or.inr ⟨by simpa using hfind, rfl, rfl⟩

theorem op_of_step (h : s.step (.op thread i op) = some (s', outs)) :
    ∃ slot c slot', s.slots[i]? = some slot ∧ slot.call = some c ∧ c.thread = thread ∧
      slot.advance c op = some slot' ∧ s' = { s with slots := s.slots.set i slot' } ∧
      outs = [] := by
  rw [step] at h
  split at h
  · next slot hslot =>
    split at h
    · next c hc =>
      obtain ⟨hthread, heq⟩ := ite_none_right_eq_some.mp h
      obtain ⟨slot', hslot', heq⟩ := Option.map_eq_some_iff.mp heq
      obtain ⟨rfl, rfl⟩ := Prod.mk.inj heq
      exact ⟨slot, c, slot', hslot, hc, hthread, hslot', rfl, rfl⟩
    · cases h
  · cases h

theorem freeSlot_of_step (h : s.step (.freeSlot thread i) = some (s', outs)) :
    ∃ slot req status, s.slots[i]? = some slot ∧
      slot.call = some ⟨thread, req, .finished status⟩ ∧ outs = [.returned thread req status] ∧
      s' = ⟨s.inUse && (s.slots.set i { Slot.free with indArrivedCond := slot.indArrivedCond }).any
          (·.slotInUse),
        s.slots.set i { Slot.free with indArrivedCond := slot.indArrivedCond }⟩ := by
  rw [step] at h
  split at h
  · next slot hslot =>
    split at h
    · next thread' req status hc =>
      obtain ⟨rfl, rfl, rfl⟩ := ite_pair_inj h
      exact ⟨slot, req, status, hslot, hc, rfl, rfl⟩
    · cases h
  · cases h

/-- The slots an indication is found to be for. -/
def foundBy (s : SyncArray) (ind : Indication) : List ℕ :=
  if s.inUse then (processSlots ind s.slots 0).2.1 else []

theorem processInd_of_step (h : s.step (.processInd ind) = some (s', outs)) :
    outs = [.found ind (s.foundBy ind)] ∧
      (∀ i, s'.slots[i]? = s.slots[i]?.map fun slot ↦
        if i ∈ s.foundBy ind then slot.receive ind else slot) ∧
      s'.inUse = (s.inUse && s.slots.any (·.slotInUse)) := by
  have heq := some_inj.mp h
  rw [processInd] at heq
  cases hinUse : s.inUse with
  | true =>
    rw [if_pos hinUse] at heq
    obtain ⟨rfl, rfl⟩ := Prod.mk.inj heq
    refine ⟨by simp [foundBy, hinUse], fun i ↦ ?_, ?_⟩
    · simpa [foundBy, hinUse] using processSlots_getElem? s.slots 0 i
    · simp [hinUse, processSlots_inUse]
  | false =>
    rw [if_neg (by simp [hinUse])] at heq
    obtain ⟨rfl, rfl⟩ := Prod.mk.inj heq
    refine ⟨by simp [foundBy, hinUse], fun i ↦ ?_, by simp [hinUse]⟩
    simp [foundBy, hinUse]

/-- A slot that was found waits for the indication. -/
theorem selects_of_mem_foundBy {slot : Slot} (h : i ∈ s.foundBy ind)
    (hslot : s.slots[i]? = some slot) : slot.Selects ind := by
  rw [foundBy] at h
  split at h
  · obtain ⟨slot', hslot', hsel⟩ := selects_of_mem_found (k := 0) (i := i) (by simpa using h)
    obtain rfl := some_inj.mp (hslot.symm.trans hslot')
    exact hsel
  · simp at h

/-! ## Every slot is free or held by one call -/

/-- A call of the thread holds the slot. -/
def HeldBy (s : SyncArray) (i thread : ℕ) : Prop :=
  ∃ slot c, s.slots[i]? = some slot ∧ slot.call = some c ∧ c.thread = thread

/-- What holds in every run. -/
structure Sound (s : SyncArray) : Prop where
  ok : ∀ (i : ℕ) (slot : Slot), s.slots[i]? = some slot → slot.Ok
  inUse : s.inUse = s.slots.any (·.slotInUse)
  /-- A thread holds one slot at most. -/
  thread : ∀ i j thread, s.HeldBy i thread → s.HeldBy j thread → i = j

theorem sound_initial : initial.Sound where
  ok := by
    intro i slot hslot
    rw [initial, getElem?_replicate] at hslot
    obtain ⟨-, heq⟩ := ite_none_right_eq_some.mp hslot
    obtain rfl := some_inj.mp heq
    exact Slot.ok_free
  inUse := by decide
  thread := by
    rintro i j thread ⟨slot, c, hslot, hc, -⟩
    rw [initial, getElem?_replicate] at hslot
    obtain ⟨-, heq⟩ := ite_none_right_eq_some.mp hslot
    obtain rfl := some_inj.mp heq
    cases hc

theorem calling_of_heldBy (h : s.HeldBy i thread) : s.Calling thread := by
  obtain ⟨slot, c, hslot, hc, hthread⟩ := h
  exact ⟨slot, mem_of_getElem? hslot, c, by simp [hc], hthread⟩

/-- A slot that is set, and the others. -/
theorem getElem?_set_cases {slots : List Slot} {slot slot' : Slot} {j : ℕ}
    (h : (slots.set i slot')[j]? = some slot) :
    (j = i ∧ slot = slot') ∨ (j ≠ i ∧ slots[j]? = some slot) := by
  rw [getElem?_set] at h
  split at h
  · next hij =>
    obtain ⟨-, heq⟩ := ite_none_right_eq_some.mp h
    exact Or.inl ⟨hij.symm, (some_inj.mp heq).symm⟩
  · next hij => exact Or.inr ⟨Ne.symm hij, h⟩

theorem any_set_of_slotInUse {slots : List Slot} {slot slot' : Slot} (hslot : slots[i]? = some slot)
    (h : slot'.slotInUse = true) : (slots.set i slot').any (·.slotInUse) = true := by
  obtain ⟨hi, -⟩ := List.getElem?_eq_some_iff.mp hslot
  exact any_eq_true.mpr ⟨slot', mem_set hi slot', h⟩

theorem Sound.allocSlot (h : s.Sound) (hs : s.step (.allocSlot thread req) = some (s', outs)) :
    s'.Sound := by
  obtain ⟨hcalling, ⟨i, slot, hslot, hfree, -, rfl⟩ | ⟨-, rfl, -⟩⟩ := allocSlot_of_step hs
  · have hnone : slot = Slot.free := by
      refine (h.ok i slot hslot).free ?_
      by_contra hcall
      obtain ⟨c, hc⟩ := Option.ne_none_iff_exists'.mp hcall
      rw [((h.ok i slot hslot).holds c hc).inUse] at hfree
      cases hfree
    subst hnone
    refine ⟨fun j slot' hslot' ↦ ?_, ?_, ?_⟩
    · rcases getElem?_set_cases hslot' with ⟨-, rfl⟩ | ⟨-, hold⟩
      · exact Slot.Holds.ok ⟨rfl, by simp, by simp [Slot.free], by simp [Slot.free]⟩ rfl
      · exact h.ok j slot' hold
    · exact (any_set_of_slotInUse hslot rfl).symm
    · -- the new call is the only one of its thread
      have hnew : ∀ j t, SyncArray.HeldBy ⟨true, s.slots.set i { Slot.free with
          slotInUse := true, call := some ⟨thread, req, .allocated⟩ }⟩ j t →
          (j = i ∧ t = thread) ∨ s.HeldBy j t := by
        rintro j t ⟨slot', c, hslot', hc, hthread⟩
        rcases getElem?_set_cases hslot' with ⟨hj, rfl⟩ | ⟨-, hold⟩
        · obtain rfl := some_inj.mp hc
          exact Or.inl ⟨hj, hthread.symm⟩
        · exact Or.inr ⟨slot', c, hold, hc, hthread⟩
      intro j j' t hj hj'
      rcases hnew j t hj with ⟨rfl, rfl⟩ | hold
      · rcases hnew j' _ hj' with ⟨rfl, -⟩ | hold'
        · rfl
        · exact absurd (calling_of_heldBy hold') hcalling
      · rcases hnew j' t hj' with ⟨rfl, rfl⟩ | hold'
        · exact absurd (calling_of_heldBy hold) hcalling
        · exact h.thread j j' t hold hold'
  · exact h

/-- A step that gives no slot to another thread. -/
theorem Sound.thread_of_heldBy (h : s.Sound) (hheld : ∀ j t, s'.HeldBy j t → s.HeldBy j t)
    (j j' t : ℕ) (hj : s'.HeldBy j t) (hj' : s'.HeldBy j' t) : j = j' :=
  h.thread j j' t (hheld j t hj) (hheld j' t hj')

theorem Sound.callStep (h : s.Sound) (hs : s.step (.op thread i op) = some (s', outs)) :
    s'.Sound := by
  obtain ⟨slot, c, slot', hslot, hc, -, hadv, rfl, -⟩ := op_of_step hs
  have hholds := (h.ok i slot hslot).holds c hc
  obtain ⟨place, hc', hholds'⟩ := hholds.advance hadv
  refine ⟨fun j slotj hslotj ↦ ?_, ?_, h.thread_of_heldBy ?_⟩
  · rcases getElem?_set_cases hslotj with ⟨-, rfl⟩ | ⟨-, hold⟩
    · exact hholds'.ok hc'
    · exact h.ok j slotj hold
  · rw [any_set_of_slotInUse hslot hholds'.inUse]
    exact h.inUse.trans
      (any_eq_true.mpr ⟨slot, mem_of_getElem? hslot, hholds.inUse⟩)
  · rintro j t ⟨slotj, cj, hslotj, hcj, hthread⟩
    rcases getElem?_set_cases hslotj with ⟨rfl, rfl⟩ | ⟨-, hold⟩
    · obtain rfl := some_inj.mp (hc'.symm.trans hcj)
      exact ⟨slot, c, hslot, hc, hthread⟩
    · exact ⟨slotj, cj, hold, hcj, hthread⟩

theorem Sound.freeSlot (h : s.Sound) (hs : s.step (.freeSlot thread i) = some (s', outs)) :
    s'.Sound := by
  obtain ⟨slot, req, status, hslot, hc, -, rfl⟩ := freeSlot_of_step hs
  have hholds := (h.ok i slot hslot).holds _ hc
  -- nobody waits on the condition variable any more
  have hcond : slot.indArrivedCond = .idle := by
    by_contra hcond
    cases hholds.cond hcond
  rw [hcond, show { Slot.free with indArrivedCond := Cond.idle } = Slot.free from rfl]
  refine ⟨fun j slotj hslotj ↦ ?_, ?_, h.thread_of_heldBy ?_⟩
  · rcases getElem?_set_cases hslotj with ⟨-, rfl⟩ | ⟨-, hold⟩
    · exact Slot.ok_free
    · exact h.ok j slotj hold
  · have hinUse : s.inUse = true := h.inUse.trans
      (any_eq_true.mpr ⟨slot, mem_of_getElem? hslot, hholds.inUse⟩)
    simp only [hinUse, Bool.true_and]
  · rintro j t ⟨slotj, cj, hslotj, hcj, hthread⟩
    rcases getElem?_set_cases hslotj with ⟨-, rfl⟩ | ⟨-, hold⟩
    · cases hcj
    · exact ⟨slotj, cj, hold, hcj, hthread⟩

/-- A slot after an indication. -/
theorem processInd_slot (hs : s.step (.processInd ind) = some (s', outs)) {slot' : Slot}
    (hslot' : s'.slots[i]? = some slot') :
    ∃ slot, s.slots[i]? = some slot ∧
      ((i ∈ s.foundBy ind ∧ slot.Selects ind ∧ slot' = slot.receive ind) ∨
        (i ∉ s.foundBy ind ∧ slot' = slot)) := by
  rw [(processInd_of_step hs).2.1, Option.map_eq_some_iff] at hslot'
  obtain ⟨slot, hslot, heq⟩ := hslot'
  refine ⟨slot, hslot, ?_⟩
  split at heq
  · next hmem => exact Or.inl ⟨hmem, selects_of_mem_foundBy hmem hslot, heq.symm⟩
  · next hmem => exact Or.inr ⟨hmem, heq.symm⟩

theorem Sound.processInd (h : s.Sound) (hs : s.step (.processInd ind) = some (s', outs)) :
    s'.Sound := by
  refine ⟨fun j slot' hslot' ↦ ?_, ?_, h.thread_of_heldBy ?_⟩
  · obtain ⟨slot, hslot, ⟨-, hsel, rfl⟩ | ⟨-, rfl⟩⟩ := processInd_slot hs hslot'
    · exact (h.ok j slot hslot).receive hsel
    · exact h.ok j _ hslot
  · have hmap : s'.slots.map (·.slotInUse) = s.slots.map (·.slotInUse) := by
      refine ext_getElem? fun j ↦ ?_
      rw [getElem?_map, getElem?_map, (processInd_of_step hs).2.1, Option.map_map]
      refine congrArg (fun f ↦ Option.map f s.slots[j]?) (funext fun slot ↦ ?_)
      simp only [Function.comp_apply]
      split
      · exact Slot.receive_slotInUse
      · rfl
    have hany : s'.slots.any (·.slotInUse) = s.slots.any (·.slotInUse) := by
      have h' := congrArg (List.any · id) hmap
      simpa [any_map] using h'
    rw [hany, (processInd_of_step hs).2.2, h.inUse, Bool.and_self]
  · rintro j t ⟨slot', c, hslot', hc, hthread⟩
    obtain ⟨slot, hslot, ⟨-, -, rfl⟩ | ⟨-, rfl⟩⟩ := processInd_slot hs hslot'
    · exact ⟨slot, c, hslot, by rw [← hc, Slot.receive_call], hthread⟩
    · exact ⟨_, c, hslot, hc, hthread⟩

theorem Sound.step {e : Event} (h : s.Sound) (hs : s.step e = some (s', outs)) : s'.Sound := by
  cases e with
  | allocSlot thread req => exact h.allocSlot hs
  | op thread i op => exact h.callStep hs
  | freeSlot thread i => exact h.freeSlot hs
  | processInd ind => exact h.processInd hs

end SyncArray

end MataDevice.SyncReq
