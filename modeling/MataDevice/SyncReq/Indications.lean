import MataDevice.SyncReq.Slots

/-!
# One indication per request

Several calls may wait for the same indication of the same client. An indication is taken by the
first slot that waits for it and copies its payload. Two things make this less than one indication
for each call: an indication without a payload, or for a call that does not want it, goes on to the
next slot, and a slot goes on waiting in its fields after it was signalled.

A run here starts when all the calls in question have selected their indication and none of them has
an answer, and there are no more indications than calls. Each indication then answers a call of its
own as long as the first slot it is found for has no answer yet, and takes it or is the only one.
-/

namespace MataDevice.SyncReq

open List
open Option (some_inj ite_none_right_eq_some)

/-- The request waits for an indication of the client. -/
def Request.For (req : Request) (handle id : ℕ) : Prop := req.clientHandle = handle ∧ req.indId = id

instance (req : Request) (handle id : ℕ) : Decidable (req.For handle id) :=
  inferInstanceAs (Decidable (_ ∧ _))

/-- The indication is one with the handle and the id. -/
def Indication.For (ind : Indication) (handle id : ℕ) : Prop :=
  ind.clientHandle = handle ∧ ind.indId = id

instance (ind : Indication) (handle id : ℕ) : Decidable (ind.For handle id) :=
  inferInstanceAs (Decidable (_ ∧ _))

namespace Slot

/-- The call has selected its indication and has no answer. -/
def Unanswered (slot : Slot) (c : Call) : Prop :=
  slot.indHasArrived = false ∧
    ((c.place = .selected ∨ c.place = .sent) ∧ slot.indIsWaiting = false ∨
      c.place = .waiting ∧ slot.indIsWaiting = true ∧ slot.indArrivedCond = .blocked)

instance (slot : Slot) (c : Call) : Decidable (slot.Unanswered c) :=
  inferInstanceAs (Decidable (_ ∧ _))

/-- The call has an answer: it will not wait, it was signalled, or it has its status already. -/
def Answered (slot : Slot) (c : Call) : Prop :=
  (c.place = .selected ∨ c.place = .sent) ∧ slot.indHasArrived = true ∨
    c.place = .waiting ∧ slot.indArrivedCond = .signalled ∨ c.place = .finished .success

end Slot

namespace SyncArray

variable (handle id : ℕ)

/-- The slot is held by a call that waits for the indication. -/
def WaitsFor (s : SyncArray) (i : ℕ) : Prop :=
  ∃ slot ∈ s.slots[i]?, ∃ c ∈ slot.call, c.req.For handle id

instance (s : SyncArray) (i : ℕ) : Decidable (s.WaitsFor handle id i) :=
  inferInstanceAs (Decidable (∃ slot ∈ s.slots[i]?, ∃ c ∈ slot.call, _))

/-- The slots of the calls that wait for the indication. -/
def callsFor (s : SyncArray) : Finset ℕ :=
  (Finset.range s.slots.length).filter (s.WaitsFor handle id)

/-- All calls that wait for the indication have selected it, and none has an answer. -/
def AllUnanswered (s : SyncArray) : Prop :=
  ∀ slot ∈ s.slots, ∀ c ∈ slot.call, c.req.For handle id → slot.Unanswered c

instance (s : SyncArray) : Decidable (s.AllUnanswered handle id) :=
  inferInstanceAs (Decidable (∀ slot ∈ s.slots, ∀ c ∈ slot.call, _))

/-- There are no further calls for the indication, their requests are sent, and their waits do not
expire. -/
def Undisturbed (s : SyncArray) : Event → Prop
  | .allocSlot _ req => ¬req.For handle id
  | .op _ i (.sendReq status) => s.WaitsFor handle id i → status = .success
  | .op _ i .expire => ¬s.WaitsFor handle id i
  | _ => True

instance (s : SyncArray) : ∀ e, Decidable (s.Undisturbed handle id e)
  | .allocSlot _ req => inferInstanceAs (Decidable (¬_))
  | .op _ i (.sendReq _) => inferInstanceAs (Decidable (_ → _))
  | .op _ i .expire => inferInstanceAs (Decidable (¬_))
  | .op _ _ .select | .op _ _ .wait | .op _ _ .wake | .op _ _ .relock | .freeSlot .. |
    .processInd _ => inferInstanceAs (Decidable True)

/-- The first of the slots that match an indication is held by a call without an answer, and it
consumes the indication or is the only one. -/
def TakenByOne (ind : Indication) : List Slot → Prop
  | [] => True
  | slot :: rest => (∃ c ∈ slot.call, slot.Unanswered c) ∧ (slot.Consumes ind ∨ rest = [])

instance (ind : Indication) : ∀ slots, Decidable (TakenByOne ind slots)
  | [] => inferInstanceAs (Decidable True)
  | slot :: rest => inferInstanceAs (Decidable (_ ∧ _))

/-- Every indication in question is taken by one slot. -/
def OneMatch (s : SyncArray) : Event → Prop
  | .processInd ind => ind.For handle id → TakenByOne ind (s.slots.filter (·.Selects ind))
  | _ => True

instance (s : SyncArray) : ∀ e, Decidable (s.OneMatch handle id e)
  | .processInd ind => inferInstanceAs (Decidable (_ → _))
  | .allocSlot .. | .op .. | .freeSlot .. => inferInstanceAs (Decidable True)

end SyncArray

/-- The slots each of the indications was found to be for. -/
def foundFor (handle id : ℕ) (hist : List (Item Event Output)) : List (List ℕ) :=
  (outsOf hist).filterMap fun
    | .found ind slots => if ind.For handle id then some slots else none
    | .returned .. => none

/-- Every indication has answered a call of its own. -/
structure OnePerCall (handle id : ℕ) (calls : Finset ℕ) (hist : List (Item Event Output))
    (s : SyncArray) : Prop where
  /-- Every indication was found to be for one of the calls, each for another one. -/
  different : ∃ slots : List ℕ, foundFor handle id hist = slots.map ([·]) ∧ slots.Nodup ∧
    ∀ i ∈ slots, i ∈ calls
  /-- The calls return with success. -/
  success : ∀ thread req status, .returned thread req status ∈ outsOf hist → req.For handle id →
    status = .success
  /-- After as many indications as calls, each call that is still going on has its answer. -/
  answered : (foundFor handle id hist).length = calls.card → ∀ slot ∈ s.slots, ∀ c ∈ slot.call,
    c.req.For handle id → slot.Answered c

/-! ## A slot and its call -/

section Slot

variable {slot slot' : Slot} {c : Call} {ind : Indication} {op : Op} {handle id : ℕ}

/-- A call without an answer goes on without one. -/
theorem Slot.Unanswered.advance {c' : Call} (h : slot.Unanswered c) (hsend : op ≠ .expire)
    (hstatus : ∀ status, op = .sendReq status → status = .success)
    (hs : slot.advance c op = some slot') (hc' : slot'.call = some c') : slot'.Unanswered c' := by
  obtain ⟨harrived, hplace⟩ := h
  cases op with
  | select =>
    obtain ⟨halloc, -⟩ := ite_none_right_eq_some.mp hs
    simp [halloc] at hplace
  | sendReq status =>
    obtain ⟨hselected, heq⟩ := ite_none_right_eq_some.mp hs
    obtain rfl := some_inj.mp heq
    obtain rfl := some_inj.mp hc'
    have hwaiting : slot.indIsWaiting = false := by simpa [hselected] using hplace
    exact ⟨harrived, Or.inl ⟨Or.inr (by simp [hstatus status rfl]), hwaiting⟩⟩
  | wait =>
    obtain ⟨hsent, heq⟩ := ite_none_right_eq_some.mp hs
    have hwaiting : slot.indIsWaiting = false := by simpa [hsent] using hplace
    rw [if_neg (by simp [harrived]), if_neg (by simp [hwaiting])] at heq
    obtain rfl := some_inj.mp heq
    obtain rfl := some_inj.mp hc'
    exact ⟨harrived, Or.inr ⟨rfl, rfl, rfl⟩⟩
  | wake =>
    obtain ⟨⟨hwaiting, hcond⟩, -⟩ := ite_none_right_eq_some.mp hs
    simp [hwaiting, hcond] at hplace
  | expire => exact absurd rfl hsend
  | relock =>
    obtain ⟨htimedOut, -⟩ := ite_none_right_eq_some.mp hs
    simp [htimedOut] at hplace

/-- A call with an answer keeps it. In particular it does not time out. -/
theorem Slot.Answered.advance {c' : Call} (h : slot.Answered c)
    (hstatus : ∀ status, op = .sendReq status → status = .success)
    (hs : slot.advance c op = some slot') (hc' : slot'.call = some c') : slot'.Answered c' := by
  cases op with
  | select =>
    obtain ⟨halloc, -⟩ := ite_none_right_eq_some.mp hs
    simp [Slot.Answered, halloc] at h
  | sendReq status =>
    obtain ⟨hselected, heq⟩ := ite_none_right_eq_some.mp hs
    obtain rfl := some_inj.mp heq
    obtain rfl := some_inj.mp hc'
    have harrived : slot.indHasArrived = true := by simpa [Slot.Answered, hselected] using h
    exact Or.inl ⟨Or.inr (by simp [hstatus status rfl]), harrived⟩
  | wait =>
    obtain ⟨hsent, heq⟩ := ite_none_right_eq_some.mp hs
    have harrived : slot.indHasArrived = true := by simpa [Slot.Answered, hsent] using h
    rw [if_pos harrived] at heq
    obtain rfl := some_inj.mp heq
    obtain rfl := some_inj.mp hc'
    exact Or.inr (Or.inr rfl)
  | wake =>
    obtain ⟨-, heq⟩ := ite_none_right_eq_some.mp hs
    obtain rfl := some_inj.mp heq
    obtain rfl := some_inj.mp hc'
    exact Or.inr (Or.inr rfl)
  | expire =>
    obtain ⟨⟨hwaiting, hcond⟩, -⟩ := ite_none_right_eq_some.mp hs
    simp [Slot.Answered, hwaiting, hcond] at h
  | relock =>
    obtain ⟨htimedOut, -⟩ := ite_none_right_eq_some.mp hs
    simp [Slot.Answered, htimedOut] at h

/-- An indication is an answer. -/
theorem Slot.Unanswered.receive (h : slot.Unanswered c) : (slot.receive ind).Answered c := by
  obtain ⟨-, ⟨hplace, hwaiting⟩ | ⟨hplace, hwaiting, hcond⟩⟩ := h
  · refine Or.inl ⟨hplace, ?_⟩
    rw [Slot.receive, if_neg (by simp [hwaiting])]
  · refine Or.inr (Or.inl ⟨hplace, ?_⟩)
    rw [Slot.receive, if_pos hwaiting, hcond, Cond.signal]

theorem Slot.Unanswered.disjoint (h : slot.Unanswered c) : ¬slot.Answered c := by
  rintro (⟨-, harrived⟩ | ⟨hplace, hcond⟩ | hplace)
  · rw [h.1] at harrived
    cases harrived
  · simp [Slot.Unanswered, hplace, hcond] at h
  · simp [Slot.Unanswered, hplace] at h

theorem Slot.Unanswered.place_ne (h : slot.Unanswered c) : c.place ≠ .allocated := by
  intro halloc
  simp [Slot.Unanswered, halloc] at h

/-- A call without an answer waits for the indication it asked for, and for no other. -/
theorem Slot.Unanswered.selects_iff (h : slot.Unanswered c) (hholds : slot.Holds c) :
    slot.Selects ind ↔ c.req.For ind.clientHandle ind.indId := by
  obtain ⟨hhandle, hid⟩ := hholds.selected h.place_ne
  rw [Slot.Selects, Request.For, hholds.inUse, hhandle, hid, h.1]
  exact ⟨fun ⟨_, h1, h2, _⟩ ↦ ⟨h1, h2.symm⟩, fun ⟨h1, h2⟩ ↦ ⟨rfl, h1, h2.symm, rfl⟩⟩

end Slot

/-! ## An indication that is taken by one slot -/

section Process

variable {ind : Indication}

/-- Nothing matches. -/
theorem found_of_filter_nil {slots : List Slot} (h : slots.filter (·.Selects ind) = [])
    (k : ℕ) : (processSlots ind slots k).2.1 = [] := by
  induction slots generalizing k with
  | nil => rfl
  | cons slot slots ih =>
    obtain ⟨hsel, hrest⟩ : ¬slot.Selects ind ∧ slots.filter (·.Selects ind) = [] := by
      simpa using h
    rw [processSlots_cons_of_not hsel]
    exact ih (by simpa using hrest) (k + 1)

/-- The loop stops at the first match if this consumes the indication, or if nothing else
matches. -/
theorem found_of_takenByOne {slots rest : List Slot} {slot : Slot}
    (h : slots.filter (·.Selects ind) = slot :: rest) (hone : slot.Consumes ind ∨ rest = [])
    (k : ℕ) : ∃ i, slots[i]? = some slot ∧ (processSlots ind slots k).2.1 = [k + i] := by
  induction slots generalizing k with
  | nil => simp at h
  | cons slot' slots ih =>
    by_cases hsel : slot'.Selects ind
    · rw [filter_cons_of_pos (by simpa using hsel)] at h
      obtain ⟨rfl, hrest⟩ := cons_eq_cons.mp h
      refine ⟨0, rfl, ?_⟩
      by_cases hc : slot'.Consumes ind
      · rw [processSlots_cons_of_consumes hsel hc]
        rfl
      · rw [processSlots_cons_of_selects hsel hc]
        have hnil := hone.resolve_left hc
        simp [found_of_filter_nil (hrest.trans hnil)]
    · rw [filter_cons_of_neg (by simpa using hsel)] at h
      obtain ⟨i, hi, hfound⟩ := ih h (k + 1)
      refine ⟨i + 1, by rwa [getElem?_cons_succ], ?_⟩
      rw [processSlots_cons_of_not hsel, hfound]
      congr 1
      omega

end Process

/-! ## Runs -/

section Run

variable {handle id : ℕ} {calls : Finset ℕ} {slots : List ℕ} {s s' : SyncArray}
  {hist : List (Item Event Output)} {e : Event} {outs : List Output}

/-- The slots in question after some indications, which were for the slots of a list. -/
structure Shared (handle id : ℕ) (calls : Finset ℕ) (slots : List ℕ)
    (hist : List (Item Event Output)) (s : SyncArray) : Prop where
  sound : s.Sound
  found : foundFor handle id hist = slots.map ([·])
  nodup : slots.Nodup
  subset : ∀ i ∈ slots, i ∈ calls
  call : ∀ (i : ℕ) (slot : Slot) (c : Call), s.slots[i]? = some slot → slot.call = some c →
    c.req.For handle id →
      i ∈ calls ∧ (i ∈ slots ∧ slot.Answered c ∨ i ∉ slots ∧ slot.Unanswered c)
  /-- A call that has no answer yet is still there. -/
  pending : ∀ i ∈ calls, i ∉ slots → s.WaitsFor handle id i
  success : ∀ thread req status, .returned thread req status ∈ outsOf hist → req.For handle id →
    status = .success

theorem foundFor_append_entry : foundFor handle id (hist ++ entry e outs) =
    foundFor handle id hist ++ outs.filterMap fun
      | .found ind slots => if ind.For handle id then some slots else none
      | .returned .. => none := by
  rw [foundFor, outsOf_append_entry, filterMap_append]
  rfl

theorem waitsFor_iff {i : ℕ} : s.WaitsFor handle id i ↔
    ∃ slot c, s.slots[i]? = some slot ∧ slot.call = some c ∧ c.req.For handle id := by
  constructor
  · rintro ⟨slot, hslot, c, hc, hfor⟩
    exact ⟨slot, c, hslot, hc, hfor⟩
  · rintro ⟨slot, c, hslot, hc, hfor⟩
    exact ⟨slot, hslot, c, hc, hfor⟩

section

variable (h : Shared handle id calls slots hist s)
include h

/-- A call in question has selected its indication. -/
theorem Shared.place_ne {i : ℕ} {slot : Slot} {c : Call}
    (hslot : s.slots[i]? = some slot) (hc : slot.call = some c) (hfor : c.req.For handle id) :
    c.place ≠ .allocated := by
  intro halloc
  rcases (h.call i slot c hslot hc hfor).2 with ⟨-, hans⟩ | ⟨-, hun⟩
  · simp [Slot.Answered, halloc] at hans
  · exact hun.place_ne halloc

theorem Shared.allocSlot {thread : ℕ} {req : Request}
    (hreq : ¬req.For handle id) (hs : s.step (.allocSlot thread req) = some (s', outs)) :
    Shared handle id calls slots (hist ++ entry (.allocSlot thread req) outs) s' := by
  have hsound := h.sound.step hs
  obtain ⟨-, ⟨i, slot, hslot, hfree, rfl, rfl⟩ | ⟨-, rfl, rfl⟩⟩ := SyncArray.allocSlot_of_step hs
  · refine ⟨hsound, by rw [foundFor_append_entry]; simpa using h.found, h.nodup, h.subset,
      fun j slotj c hslotj hc hfor ↦ ?_, fun j hj hnot ↦ ?_, by simpa using h.success⟩
    · rcases SyncArray.getElem?_set_cases hslotj with ⟨-, rfl⟩ | ⟨-, hold⟩
      · obtain rfl := some_inj.mp hc
        exact absurd hfor hreq
      · exact h.call j slotj c hold hc hfor
    · obtain ⟨slotj, c, hslotj, hc, hfor⟩ := waitsFor_iff.mp (h.pending j hj hnot)
      refine waitsFor_iff.mpr ⟨slotj, c, ?_, hc, hfor⟩
      rw [getElem?_set_ne, hslotj]
      -- the slot that is taken was free
      rintro rfl
      obtain rfl := some_inj.mp (hslot.symm.trans hslotj)
      rw [((h.sound.ok i slot hslot).holds c hc).inUse] at hfree
      cases hfree
  · refine ⟨hsound, by rw [foundFor_append_entry]; simpa using h.found, h.nodup, h.subset, h.call,
      h.pending, fun thread' req' status hmem hfor ↦ ?_⟩
    rw [outsOf_append_entry, mem_append, mem_singleton] at hmem
    rcases hmem with hmem | heq
    · exact h.success thread' req' status hmem hfor
    · obtain ⟨-, rfl, -⟩ := Output.returned.inj heq
      exact absurd hfor hreq

theorem Shared.callStep {thread i : ℕ} {op : Op} (hg : s.Undisturbed handle id (.op thread i op))
    (hs : s.step (.op thread i op) = some (s', outs)) :
    Shared handle id calls slots (hist ++ entry (.op thread i op) outs) s' := by
  have hsound := h.sound.step hs
  obtain ⟨slot, c, slot', hslot, hc, -, hadv, rfl, rfl⟩ := SyncArray.op_of_step hs
  obtain ⟨place, hc', -⟩ := ((h.sound.ok i slot hslot).holds c hc).advance hadv
  refine ⟨hsound, by rw [foundFor_append_entry]; simpa using h.found, h.nodup, h.subset,
    fun j slotj cj hslotj hcj hfor ↦ ?_, fun j hj hnot ↦ ?_, by simpa using h.success⟩
  · rcases SyncArray.getElem?_set_cases hslotj with ⟨rfl, rfl⟩ | ⟨-, hold⟩
    · obtain rfl := some_inj.mp (hc'.symm.trans hcj)
      have hwaits : s.WaitsFor handle id j := waitsFor_iff.mpr ⟨slot, c, hslot, hc, hfor⟩
      have hstatus : ∀ status, op = .sendReq status → status = .success := by
        rintro status rfl
        exact hg hwaits
      have hexpire : op ≠ .expire := by
        rintro rfl
        exact hg hwaits
      obtain ⟨hmem, ⟨hin, hans⟩ | ⟨hnot, hun⟩⟩ := h.call j slot c hslot hc hfor
      · exact ⟨hmem, Or.inl ⟨hin, hans.advance hstatus hadv hc'⟩⟩
      · exact ⟨hmem, Or.inr ⟨hnot, hun.advance hexpire hstatus hadv hc'⟩⟩
    · exact h.call j slotj cj hold hcj hfor
  · obtain ⟨slotj, cj, hslotj, hcj, hfor⟩ := waitsFor_iff.mp (h.pending j hj hnot)
    refine waitsFor_iff.mpr ?_
    by_cases hij : i = j
    · subst hij
      obtain rfl := some_inj.mp (hslot.symm.trans hslotj)
      obtain rfl := some_inj.mp (hc.symm.trans hcj)
      obtain ⟨hi, -⟩ := List.getElem?_eq_some_iff.mp hslot
      exact ⟨slot', _, getElem?_set_self hi, hc', hfor⟩
    · exact ⟨slotj, cj, by rw [getElem?_set_ne hij, hslotj], hcj, hfor⟩

theorem Shared.freeSlot {thread i : ℕ} (hs : s.step (.freeSlot thread i) = some (s', outs)) :
    Shared handle id calls slots (hist ++ entry (.freeSlot thread i) outs) s' := by
  have hsound := h.sound.step hs
  obtain ⟨slot, req, status, hslot, hc, rfl, rfl⟩ := SyncArray.freeSlot_of_step hs
  refine ⟨hsound, by rw [foundFor_append_entry]; simpa using h.found, h.nodup, h.subset,
    fun j slotj cj hslotj hcj hfor ↦ ?_, fun j hj hnot ↦ ?_,
    fun thread' req' status' hmem hfor ↦ ?_⟩
  · rcases SyncArray.getElem?_set_cases hslotj with ⟨-, rfl⟩ | ⟨-, hold⟩
    · cases hcj
    · exact h.call j slotj cj hold hcj hfor
  · obtain ⟨slotj, cj, hslotj, hcj, hfor⟩ := waitsFor_iff.mp (h.pending j hj hnot)
    refine waitsFor_iff.mpr ⟨slotj, cj, ?_, hcj, hfor⟩
    rw [getElem?_set_ne, hslotj]
    -- the call that returns has its answer
    rintro rfl
    obtain rfl := some_inj.mp (hslot.symm.trans hslotj)
    obtain rfl := some_inj.mp (hc.symm.trans hcj)
    obtain ⟨-, ⟨hin, -⟩ | ⟨-, hun⟩⟩ := h.call i slot _ hslot hc hfor
    · exact hnot hin
    · simp [Slot.Unanswered] at hun
  · rw [outsOf_append_entry, mem_append, mem_singleton] at hmem
    rcases hmem with hmem | heq
    · exact h.success thread' req' status' hmem hfor
    · obtain ⟨-, rfl, rfl⟩ := Output.returned.inj heq
      obtain ⟨-, ⟨-, hans⟩ | ⟨-, hun⟩⟩ := h.call i slot _ hslot hc hfor
      · simpa [Slot.Answered] using hans
      · simp [Slot.Unanswered] at hun

end

variable {ind : Indication}

/-- An indication leaves the calls where they are. -/
theorem waitsFor_processInd {i : ℕ}
    (hs : s.step (.processInd ind) = some (s', outs)) (h : s.WaitsFor handle id i) :
    s'.WaitsFor handle id i := by
  obtain ⟨slot, c, hslot, hc, hfor⟩ := waitsFor_iff.mp h
  refine waitsFor_iff.mpr
    ⟨if i ∈ s.foundBy ind then slot.receive ind else slot, c, ?_, ?_, hfor⟩
  · rw [(SyncArray.processInd_of_step hs).2.1, hslot, Option.map_some]
  · split
    · rw [Slot.receive_call, hc]
    · exact hc

/-- An indication that is not in question goes to none of the calls. -/
theorem Shared.processInd_of_not (h : Shared handle id calls slots hist s)
    (hind : ¬ind.For handle id) (hs : s.step (.processInd ind) = some (s', outs)) :
    Shared handle id calls slots (hist ++ entry (.processInd ind) outs) s' := by
  refine ⟨h.sound.step hs, ?_, h.nodup, h.subset, fun j slot' c hslot' hc hfor ↦ ?_,
    fun j hj hnot ↦ ?_, ?_⟩
  · rw [foundFor_append_entry, (SyncArray.processInd_of_step hs).1]
    simpa [hind] using h.found
  · obtain ⟨slot, hslot, ⟨-, hsel, rfl⟩ | ⟨-, rfl⟩⟩ := SyncArray.processInd_slot hs hslot'
    · rw [Slot.receive_call] at hc
      obtain ⟨hhandle, hid⟩ :=
        ((h.sound.ok j slot hslot).holds c hc).selected (h.place_ne hslot hc hfor)
      refine absurd ⟨?_, ?_⟩ hind
      · rw [← hsel.2.1, hhandle, hfor.1]
      · rw [hsel.2.2.1, hid, hfor.2]
    · exact h.call j _ c hslot hc hfor
  · exact waitsFor_processInd hs (h.pending j hj hnot)
  · rw [outsOf_append_entry, (SyncArray.processInd_of_step hs).1]
    simpa using h.success

/-- An indication in question answers one more call, as long as there are more calls than
indications. -/
theorem Shared.processInd (h : Shared handle id calls slots hist s)
    (hind : ind.For handle id) (hone : s.OneMatch handle id (.processInd ind))
    (hcard : slots.length < calls.card) (hs : s.step (.processInd ind) = some (s', outs)) :
    ∃ j, Shared handle id calls (slots ++ [j]) (hist ++ entry (.processInd ind) outs) s' := by
  -- a call that has no answer yet matches
  obtain ⟨i, hi, hnot⟩ : ∃ i ∈ calls, i ∉ slots := by
    obtain ⟨i, hi, hnot⟩ := Finset.exists_mem_notMem_of_card_lt_card
      (lt_of_le_of_lt (toFinset_card_le slots) hcard)
    exact ⟨i, hi, by simpa using hnot⟩
  obtain ⟨slot, c, hslot, hc, hfor⟩ := waitsFor_iff.mp (h.pending i hi hnot)
  have hholds := (h.sound.ok i slot hslot).holds c hc
  have hun : slot.Unanswered c := by
    rcases (h.call i slot c hslot hc hfor).2 with ⟨hin, -⟩ | ⟨-, hun⟩
    · exact absurd hin hnot
    · exact hun
  have hsel : slot.Selects ind := by
    rw [hun.selects_iff hholds, hind.1, hind.2]
    exact hfor
  have hinUse : s.inUse = true :=
    h.sound.inUse.trans (any_eq_true.mpr ⟨slot, mem_of_getElem? hslot, hholds.inUse⟩)
  have hmem : slot ∈ s.slots.filter (·.Selects ind) :=
    mem_filter.mpr ⟨mem_of_getElem? hslot, by simpa using hsel⟩
  -- so there is a first match, which takes the indication
  obtain ⟨first, rest, hfilter⟩ := exists_cons_of_ne_nil (ne_nil_of_mem hmem)
  have htaken := hone hind
  rw [hfilter] at htaken
  obtain ⟨⟨cf, hcf, hunf⟩, hconsumes⟩ := htaken
  obtain ⟨j, hj, hfound⟩ := found_of_takenByOne hfilter hconsumes 0
  have hfoundBy : s.foundBy ind = [j] := by
    rw [SyncArray.foundBy, if_pos hinUse, hfound, Nat.zero_add]
  have hself : first.Selects ind := SyncArray.selects_of_mem_foundBy (by simp [hfoundBy]) hj
  have hforf : cf.req.For handle id := by
    have hfor' := (hunf.selects_iff ((h.sound.ok j first hj).holds cf hcf)).mp hself
    rwa [hind.1, hind.2] at hfor'
  obtain ⟨hjcalls, hjnot⟩ : j ∈ calls ∧ j ∉ slots := by
    obtain ⟨hjcalls, ⟨-, hans⟩ | ⟨hjnot, -⟩⟩ := h.call j first cf hj hcf hforf
    · exact absurd hans hunf.disjoint
    · exact ⟨hjcalls, hjnot⟩
  refine ⟨j, h.sound.step hs, ?_, ?_, ?_, fun k slot' c' hslot' hc' hfor' ↦ ?_,
    fun k hk hnot' ↦ ?_, ?_⟩
  · rw [foundFor_append_entry, (SyncArray.processInd_of_step hs).1, hfoundBy]
    simp [hind, h.found]
  · exact nodup_append.mpr ⟨h.nodup, nodup_singleton j, by
      rintro k hk l hl rfl
      rw [mem_singleton.mp hl] at hk
      exact hjnot hk⟩
  · intro k hk
    rcases mem_append.mp hk with hk | hk
    · exact h.subset k hk
    · rwa [mem_singleton.mp hk]
  · obtain ⟨slotk, hslotk, ⟨hin, -, rfl⟩ | ⟨hout, rfl⟩⟩ := SyncArray.processInd_slot hs hslot'
    · rw [hfoundBy, mem_singleton] at hin
      subst hin
      rw [Slot.receive_call] at hc'
      obtain rfl := some_inj.mp (hj.symm.trans hslotk)
      obtain rfl := some_inj.mp (hcf.symm.trans hc')
      exact ⟨hjcalls, Or.inl ⟨by simp, hunf.receive⟩⟩
    · have hkj : k ≠ j := by
        rintro rfl
        exact hout (by simp [hfoundBy])
      simpa [hkj] using h.call k _ c' hslotk hc' hfor'
  · exact waitsFor_processInd hs (h.pending k hk fun hin ↦ hnot' (mem_append_left _ hin))
  · rw [outsOf_append_entry, (SyncArray.processInd_of_step hs).1]
    simpa using h.success

/-- At the start no call has an answer. -/
theorem shared_start (hsound : s.Sound) (hun : s.AllUnanswered handle id) :
    Shared handle id (s.callsFor handle id) [] [] s where
  sound := hsound
  found := rfl
  nodup := nodup_nil
  subset := by simp
  call := by
    intro i slot c hslot hc hfor
    have hwaits : s.WaitsFor handle id i := waitsFor_iff.mpr ⟨slot, c, hslot, hc, hfor⟩
    obtain ⟨hi, -⟩ := List.getElem?_eq_some_iff.mp hslot
    exact ⟨Finset.mem_filter.mpr ⟨Finset.mem_range.mpr hi, hwaits⟩,
      Or.inr ⟨by simp, hun slot (mem_of_getElem? hslot) c hc hfor⟩⟩
  pending := fun i hi _ ↦ (Finset.mem_filter.mp hi).2
  success := by simp

theorem Shared.onePerCall (h : Shared handle id calls slots hist s) :
    OnePerCall handle id calls hist s where
  different := ⟨slots, h.found, h.nodup, h.subset⟩
  success := h.success
  answered := by
    intro hlen slot hslot c hc hfor
    rw [h.found, length_map] at hlen
    obtain ⟨i, hi⟩ := getElem?_of_mem hslot
    obtain ⟨hcalls, ⟨-, hans⟩ | ⟨hnot, -⟩⟩ := h.call i slot c hi hc hfor
    · exact hans
    · -- the answers are as many as the calls
      have hsub : slots.toFinset ⊆ calls := fun j hj ↦ h.subset j (mem_toFinset.mp hj)
      have heq : slots.toFinset = calls := Finset.eq_of_subset_of_card_le hsub
        (by rw [toFinset_card_of_nodup h.nodup, hlen])
      rw [← heq, mem_toFinset] at hcalls
      exact absurd hcalls hnot

theorem Shared.step (h : Shared handle id calls slots hist s)
    (hg : s.Undisturbed handle id e ∧ s.OneMatch handle id e)
    (hs : s.step e = some (s', outs))
    (hcard : (foundFor handle id (hist ++ entry e outs)).length ≤ calls.card) :
    ∃ slots', Shared handle id calls slots' (hist ++ entry e outs) s' := by
  cases e with
  | allocSlot thread req => exact ⟨slots, h.allocSlot hg.1 hs⟩
  | op thread i op => exact ⟨slots, h.callStep hg.1 hs⟩
  | freeSlot thread i => exact ⟨slots, h.freeSlot hs⟩
  | processInd ind =>
    by_cases hind : ind.For handle id
    · rw [foundFor_append_entry, (SyncArray.processInd_of_step hs).1, h.found] at hcard
      simp only [filterMap_cons, if_pos hind, filterMap_nil, length_append,
        length_map, length_singleton] at hcard
      obtain ⟨j, h'⟩ := h.processInd hind hg.2 hcard hs
      exact ⟨slots ++ [j], h'⟩
    · exact ⟨slots, h.processInd_of_not hind hs⟩

variable {hist₀ : List (Item Event Output)} {s₀ : SyncArray}

/-- From any state in which the calls have selected their indication, in every run in which each
indication is taken by one slot. -/
theorem onePerCall_of_run (h₀ : Run SyncArray.step (fun _ _ ↦ True) SyncArray.initial hist₀ s₀)
    (hun : s₀.AllUnanswered handle id)
    (h : Run SyncArray.step (fun s e ↦ s.Undisturbed handle id e ∧ s.OneMatch handle id e) s₀ hist
      s)
    (hcard : (foundFor handle id hist).length ≤ (s₀.callsFor handle id).card) :
    OnePerCall handle id (s₀.callsFor handle id) hist s := by
  have hsound : s₀.Sound :=
    h₀.invariant (I := fun _ s ↦ s.Sound) SyncArray.sound_initial fun h _ hs ↦ h.step hs
  -- the histories before have no more indications
  have hshared := h.invariant
    (I := fun hist s ↦ (foundFor handle id hist).length ≤ (s₀.callsFor handle id).card →
      ∃ slots, Shared handle id (s₀.callsFor handle id) slots hist s)
    (fun _ ↦ ⟨[], shared_start hsound hun⟩) fun {hist s e s' outs} ih hg hs hlen ↦ by
      have hle : (foundFor handle id hist).length ≤ (s₀.callsFor handle id).card := by
        rw [foundFor_append_entry, length_append] at hlen
        omega
      obtain ⟨slots, h⟩ := ih hle
      exact h.step hg hs hlen
  obtain ⟨slots, h⟩ := hshared hcard
  exact h.onePerCall

/-- Two calls, two indications: the second one comes when the first call has returned. -/
theorem onePerCall_of_run_two_calls :
    ∃ hist₀ s₀ hist s, Run SyncArray.step (fun _ _ ↦ True) SyncArray.initial hist₀ s₀ ∧
      (foundFor 1 7 hist = [[0], [1]] ∧ s₀.callsFor 1 7 = {0, 1}) ∧
      OnePerCall 1 7 (s₀.callsFor 1 7) hist s := by
  obtain ⟨hist₀, s₀, hrun₀, hun, hcalls, hrest⟩ :=
    Run.exists_of_runEvents SyncArray.step (fun _ _ ↦ True)
    SyncArray.initial
    [.allocSlot 10 ⟨1, 3, 7, some 100⟩, .allocSlot 11 ⟨1, 3, 7, some 200⟩, .op 10 0 .select,
      .op 11 1 .select, .op 10 0 (.sendReq .success), .op 10 0 .wait]
    (fun _ s₀ ↦ s₀.AllUnanswered 1 7 ∧ s₀.callsFor 1 7 = {0, 1} ∧
      (runEvents SyncArray.step (fun s e ↦ s.Undisturbed 1 7 e ∧ s.OneMatch 1 7 e) [] s₀
        [.processInd ⟨1, 7, [5]⟩, .op 10 0 .wake, .freeSlot 10 0, .processInd ⟨1, 7, [6]⟩]).any
        (fun r ↦ decide (foundFor 1 7 r.1 = [[0], [1]])) = true) (by decide +kernel)
  obtain ⟨hist, s, hrun, hend⟩ := Run.exists_of_runEvents _ _ s₀ _
    (fun hist _ ↦ foundFor 1 7 hist = [[0], [1]]) hrest
  have hfound := hend
  exact ⟨hist₀, s₀, hist, s, hrun₀, ⟨hfound, hcalls⟩,
    onePerCall_of_run hrun₀ hun hrun (by rw [hfound, hcalls]; decide)⟩

/-- An indication without a payload answers both calls. -/
theorem not_onePerCall :
    ¬∀ handle id hist₀ s₀ hist s,
      Run SyncArray.step (fun _ _ ↦ True) SyncArray.initial hist₀ s₀ →
      s₀.AllUnanswered handle id →
      Run SyncArray.step (fun s e ↦ s.Undisturbed handle id e) s₀ hist s →
      (foundFor handle id hist).length ≤ (s₀.callsFor handle id).card →
      OnePerCall handle id (s₀.callsFor handle id) hist s := by
  intro hone
  obtain ⟨hist₀, s₀, hrun₀, hun, hcalls, hrest⟩ :=
    Run.exists_of_runEvents SyncArray.step (fun _ _ ↦ True)
    SyncArray.initial
    [.allocSlot 10 ⟨1, 3, 7, some 100⟩, .allocSlot 11 ⟨1, 3, 7, some 200⟩, .op 10 0 .select,
      .op 11 1 .select]
    (fun _ s₀ ↦ s₀.AllUnanswered 1 7 ∧ s₀.callsFor 1 7 = {0, 1} ∧
      (runEvents SyncArray.step (fun s e ↦ s.Undisturbed 1 7 e) [] s₀
        [.processInd ⟨1, 7, []⟩, .processInd ⟨1, 7, []⟩]).any
        (fun r ↦ decide (foundFor 1 7 r.1 = [[0, 1], []])) = true) (by decide +kernel)
  obtain ⟨hist, s, hrun, hend⟩ := Run.exists_of_runEvents _ _ s₀ _
    (fun hist _ ↦ foundFor 1 7 hist = [[0, 1], []]) hrest
  have hfound := hend
  obtain ⟨slots, hslots, -, -⟩ :=
    (hone 1 7 hist₀ s₀ hist s hrun₀ hun hrun (by rw [hfound, hcalls]; decide)).different
  -- the first indication was found to be for two slots
  have hhead : [0, 1] ∈ slots.map ([·]) := by
    rw [← hslots, hfound]
    simp
  simp at hhead

end Run

end MataDevice.SyncReq
