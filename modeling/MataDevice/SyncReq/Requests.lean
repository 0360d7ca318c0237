import MataDevice.SyncReq.Slots

/-!
# Success means answered

A call that returns success has sent its request, and an indication with its handle and its id was
processed after it had selected that indication. The slot keeps what is needed for this: the
indication is remembered in `ind_has_arrived` until the call waits, and signalled from then on.

There is one exception: a call that finds no free slot returns the status it starts with, which is
success. When no call is going on, all slots are free again.
-/

namespace MataDevice.SyncReq

open Option (some_inj ite_none_right_eq_some)

/-- Whether the call of a thread has handed its request to `locClientSendReq`. -/
def handed (thread : ℕ) : Item Event Output → Option Bool
  | .event (.allocSlot t _) => if t = thread then some false else none
  | .event (.op t _ (.sendReq _)) => if t = thread then some true else none
  | _ => none

/-- Whether an indication for a request was processed since the thread has selected it. -/
def answered (thread : ℕ) (req : Request) : Item Event Output → Option Bool
  | .event (.op t _ .select) => if t = thread then some false else none
  | .event (.processInd ind) =>
    if ind.clientHandle = req.clientHandle ∧ ind.indId = req.indId then some true else none
  | _ => none

namespace SyncArray

/-- What the callers rely on. -/
structure Answers (s : SyncArray) (hist : List (Item Event Output)) : Prop where
  /-- Success means that the request was sent and its indication came. -/
  success : Always (fun pre x ↦ ∀ thread req, x = .out (.returned thread req .success) →
    latest (handed thread) pre = some true ∧ latest (answered thread req) pre = some true) hist
  /-- When no call is going on, the slots are free. -/
  free : (∀ slot ∈ s.slots, slot.call = none) →
    (∀ slot ∈ s.slots, slot = Slot.free) ∧ s.inUse = false

/-- A call comes while a slot is free. -/
def NotFull (s : SyncArray) : Event → Prop
  | .allocSlot _ _ => ∃ slot ∈ s.slots, slot.slotInUse = false
  | _ => True

instance (s : SyncArray) : ∀ e, Decidable (s.NotFull e)
  | .allocSlot _ _ => inferInstanceAs (Decidable (∃ slot ∈ s.slots, _))
  | .op .. | .freeSlot .. | .processInd _ => inferInstanceAs (Decidable True)

end SyncArray

/-- What a slot says about the past of the call that holds it. -/
structure Recorded (slot : Slot) (c : Call) (hist : List (Item Event Output)) : Prop where
  handed : c.place ≠ .allocated → c.place ≠ .selected →
    latest (handed c.thread) hist = some true
  arrived : c.place ≠ .allocated → slot.indHasArrived = true →
    latest (answered c.thread c.req) hist = some true
  signalled : slot.indArrivedCond = .signalled → latest (answered c.thread c.req) hist = some true
  finished : c.place = .finished .success → latest (answered c.thread c.req) hist = some true

variable {slot slot' : Slot} {c : Call} {hist : List (Item Event Output)} {e : Event}
  {outs : List Output} {op : Op} {i : ℕ}

/-- A call that was handed over or answered stays so, unless its thread starts anew. -/
theorem Recorded.append_entry (h : Recorded slot c hist)
    (hh : SyncReq.handed c.thread (.event e) ≠ some false)
    (ha : SyncReq.answered c.thread c.req (.event e) ≠ some false) :
    Recorded slot c (hist ++ entry e outs) := by
  have hhanded : latest (SyncReq.handed c.thread) hist = some true →
      latest (SyncReq.handed c.thread) (hist ++ entry e outs) = some true := by
    intro htrue
    rw [latest_append_entry (fun _ ↦ rfl), htrue]
    cases hv : SyncReq.handed c.thread (.event e) with
    | none => rfl
    | some b =>
      cases b with
      | true => rfl
      | false => exact absurd hv hh
  have hanswered : latest (SyncReq.answered c.thread c.req) hist = some true →
      latest (SyncReq.answered c.thread c.req) (hist ++ entry e outs) = some true := by
    intro htrue
    rw [latest_append_entry (fun _ ↦ rfl), htrue]
    cases hv : SyncReq.answered c.thread c.req (.event e) with
    | none => rfl
    | some b =>
      cases b with
      | true => rfl
      | false => exact absurd hv ha
  exact ⟨fun h1 h2 ↦ hhanded (h.handed h1 h2), fun h1 h2 ↦ hanswered (h.arrived h1 h2),
    fun h1 ↦ hanswered (h.signalled h1), fun h1 ↦ hanswered (h.finished h1)⟩

/-- What a step of the call itself does to the record. -/
theorem Recorded.advance {c' : Call} (h : Recorded slot c hist) (hholds : slot.Holds c)
    (hs : slot.advance c op = some slot') (hc' : slot'.call = some c') :
    Recorded slot' c' (hist ++ entry (.op c.thread i op) outs) := by
  cases op with
  | select =>
    obtain ⟨hplace, heq⟩ := ite_none_right_eq_some.mp hs
    obtain rfl := some_inj.mp heq
    obtain rfl := some_inj.mp hc'
    refine ⟨by simp, by simp, fun hcond ↦ ?_, by simp⟩
    have hwaiting := hholds.cond (by simp only at hcond; simp [hcond])
    rw [hplace] at hwaiting
    cases hwaiting
  | sendReq status =>
    obtain ⟨hplace, heq⟩ := ite_none_right_eq_some.mp hs
    obtain rfl := some_inj.mp heq
    obtain rfl := some_inj.mp hc'
    have h' : Recorded slot c (hist ++ entry (.op c.thread i (.sendReq status)) outs) :=
      h.append_entry (by simp [SyncReq.handed]) (by simp [SyncReq.answered])
    refine ⟨fun _ _ ↦ ?_, fun _ ↦ h'.arrived (by simp [hplace]), h'.signalled, fun hfin ↦ ?_⟩
    · rw [latest_append_entry (fun _ ↦ rfl)]
      simp [SyncReq.handed]
    · -- the call goes on after a success
      simp only at hfin
      split at hfin
      · cases hfin
      · next hstatus => exact absurd (Place.finished.inj hfin) hstatus
  | wait =>
    obtain ⟨hplace, hs⟩ := ite_none_right_eq_some.mp hs
    have h' : Recorded slot c (hist ++ entry (.op c.thread i .wait) outs) := h.append_entry
      (by simp [SyncReq.handed]) (by simp [SyncReq.answered])
    have hhanded := h'.handed (by simp [hplace]) (by simp [hplace])
    have harrived := h'.arrived (by simp [hplace])
    split at hs
    · next hhas =>
      obtain rfl := some_inj.mp hs
      obtain rfl := some_inj.mp hc'
      exact ⟨fun _ _ ↦ hhanded, fun _ ↦ harrived, h'.signalled, fun _ ↦ harrived hhas⟩
    · split at hs
      · obtain rfl := some_inj.mp hs
        obtain rfl := some_inj.mp hc'
        exact ⟨fun _ _ ↦ hhanded, fun _ ↦ harrived, h'.signalled, by simp⟩
      · obtain rfl := some_inj.mp hs
        obtain rfl := some_inj.mp hc'
        exact ⟨fun _ _ ↦ hhanded, fun _ ↦ harrived, by simp, by simp⟩
  | wake =>
    obtain ⟨⟨hplace, hcond⟩, heq⟩ := ite_none_right_eq_some.mp hs
    obtain rfl := some_inj.mp heq
    obtain rfl := some_inj.mp hc'
    have h' : Recorded slot c (hist ++ entry (.op c.thread i .wake) outs) := h.append_entry
      (by simp [SyncReq.handed]) (by simp [SyncReq.answered])
    exact ⟨fun _ _ ↦ h'.handed (by simp [hplace]) (by simp [hplace]),
      fun _ ↦ h'.arrived (by simp [hplace]), by simp, fun _ ↦ h'.signalled hcond⟩
  | expire =>
    obtain ⟨⟨hplace, -⟩, heq⟩ := ite_none_right_eq_some.mp hs
    obtain rfl := some_inj.mp heq
    obtain rfl := some_inj.mp hc'
    have h' : Recorded slot c (hist ++ entry (.op c.thread i .expire) outs) := h.append_entry
      (by simp [SyncReq.handed]) (by simp [SyncReq.answered])
    exact ⟨fun _ _ ↦ h'.handed (by simp [hplace]) (by simp [hplace]),
      fun _ ↦ h'.arrived (by simp [hplace]), by simp, by simp⟩
  | relock =>
    obtain ⟨hplace, heq⟩ := ite_none_right_eq_some.mp hs
    obtain rfl := some_inj.mp heq
    obtain rfl := some_inj.mp hc'
    have h' : Recorded slot c (hist ++ entry (.op c.thread i .relock) outs) := h.append_entry
      (by simp [SyncReq.handed]) (by simp [SyncReq.answered])
    exact ⟨fun _ _ ↦ h'.handed (by simp [hplace]) (by simp [hplace]),
      fun _ ↦ h'.arrived (by simp [hplace]), h'.signalled, by simp⟩

theorem answered_processInd_ne {ind : Indication} {thread : ℕ} {req : Request} :
    answered thread req (.event (.processInd ind)) ≠ some false := by
  simp only [answered]
  split
  · simp
  · simp

/-- An indication a slot waits for is an answer to its call, once the call has selected it. -/
theorem Recorded.receive {ind : Indication} (h : Recorded slot c hist) (hholds : slot.Holds c)
    (hsel : slot.Selects ind) :
    Recorded (slot.receive ind) c (hist ++ entry (.processInd ind) outs) := by
  have hanswered : c.place ≠ .allocated →
      latest (SyncReq.answered c.thread c.req) (hist ++ entry (.processInd ind) outs) =
        some true := by
    intro hplace
    obtain ⟨hhandle, hid⟩ := hholds.selected hplace
    rw [latest_append_entry (fun _ ↦ rfl), SyncReq.answered,
      if_pos ⟨hsel.2.1.symm.trans hhandle, hsel.2.2.1.trans hid⟩, Option.some_or]
  have h' : Recorded slot c (hist ++ entry (.processInd ind) outs) := h.append_entry
    (by simp [SyncReq.handed]) answered_processInd_ne
  rw [Slot.receive]
  split
  · next hwaiting =>
    refine ⟨h'.handed, fun hplace _ ↦ hanswered hplace, fun _ ↦ hanswered ?_, h'.finished⟩
    rcases hholds.isWaiting hwaiting with hplace | hplace
    · simp [hplace]
    · simp [hplace]
  · exact ⟨h'.handed, fun hplace _ ↦ hanswered hplace, h'.signalled, h'.finished⟩

namespace SyncArray

variable {s s' : SyncArray}

/-- The state and the history of a run without a full buffer. -/
structure Tracked (s : SyncArray) (hist : List (Item Event Output)) : Prop where
  sound : s.Sound
  recorded : ∀ (i : ℕ) (slot : Slot) (c : Call), s.slots[i]? = some slot → slot.call = some c →
    Recorded slot c hist
  success : Always (fun pre x ↦ ∀ thread req, x = .out (.returned thread req .success) →
    latest (handed thread) pre = some true ∧ latest (answered thread req) pre = some true) hist

section

variable (h : s.Tracked hist)
include h

/-- A step that returns from no call keeps what was said about the returns. -/
theorem Tracked.success_append (houts : ∀ thread req, .returned thread req .success ∉ outs) :
    Always (fun pre x ↦ ∀ thread req, x = .out (.returned thread req .success) →
      latest (handed thread) pre = some true ∧ latest (answered thread req) pre = some true)
      (hist ++ entry e outs) := by
  refine always_append.mpr ⟨h.success, Always.of_forall ?_⟩
  rintro x hx pre thread req rfl
  simp [entry, houts] at hx

theorem Tracked.allocSlot {thread : ℕ} {req : Request} (hfree : s.NotFull (.allocSlot thread req))
    (hs : s.step (.allocSlot thread req) = some (s', outs)) :
    s'.Tracked (hist ++ entry (.allocSlot thread req) outs) := by
  obtain ⟨hcalling, ⟨i, slot, hslot, hinUse, rfl, rfl⟩ | ⟨hfull, -⟩⟩ := allocSlot_of_step hs
  · refine ⟨h.sound.step hs, fun j slotj c hslotj hc ↦ ?_, h.success_append (by simp)⟩
    rcases getElem?_set_cases hslotj with ⟨-, rfl⟩ | ⟨-, hold⟩
    · obtain rfl := some_inj.mp hc
      -- the slot was free, and nobody has been signalled there
      have hcond : slot.indArrivedCond ≠ .signalled := by
        intro hcond
        cases hcall : slot.call with
        | none =>
          rw [(h.sound.ok i slot hslot).free hcall] at hcond
          cases hcond
        | some c =>
          rw [((h.sound.ok i slot hslot).holds c hcall).inUse] at hinUse
          cases hinUse
      exact ⟨by simp, by simp, fun hsig ↦ absurd hsig hcond, by simp⟩
    · have hthread : thread ≠ c.thread := by
        rintro rfl
        exact hcalling (calling_of_heldBy ⟨slotj, c, hold, hc, rfl⟩)
      exact (h.recorded j slotj c hold hc).append_entry (by simp [handed, hthread])
        (by simp [answered])
  · obtain ⟨slot, hmem, hinUse⟩ := hfree
    rw [hfull slot hmem] at hinUse
    cases hinUse

theorem Tracked.callStep {thread : ℕ} (hs : s.step (.op thread i op) = some (s', outs)) :
    s'.Tracked (hist ++ entry (.op thread i op) outs) := by
  have hsound := h.sound.step hs
  obtain ⟨slot, c, slot', hslot, hc, rfl, hadv, rfl, rfl⟩ := op_of_step hs
  refine ⟨hsound, fun j slotj cj hslotj hcj ↦ ?_, h.success_append (by simp)⟩
  rcases getElem?_set_cases hslotj with ⟨-, rfl⟩ | ⟨hj, hold⟩
  · exact (h.recorded i slot c hslot hc).advance ((h.sound.ok i slot hslot).holds c hc) hadv hcj
  · have hthread : c.thread ≠ cj.thread := fun heq ↦
      hj (h.sound.thread j i c.thread ⟨slotj, cj, hold, hcj, heq.symm⟩ ⟨slot, c, hslot, hc, rfl⟩)
    refine (h.recorded j slotj cj hold hcj).append_entry ?_ ?_
    · cases op with
      | sendReq status => simp [handed, hthread]
      | select | wait | wake | expire | relock => simp [handed]
    · cases op with
      | select => simp [answered, hthread]
      | sendReq status => simp [answered]
      | wait | wake | expire | relock => simp [answered]

theorem Tracked.freeSlot {thread : ℕ} (hs : s.step (.freeSlot thread i) = some (s', outs)) :
    s'.Tracked (hist ++ entry (.freeSlot thread i) outs) := by
  have hsound := h.sound.step hs
  obtain ⟨slot, req, status, hslot, hc, rfl, rfl⟩ := freeSlot_of_step hs
  refine ⟨hsound, fun j slotj cj hslotj hcj ↦ ?_, ?_⟩
  · rcases getElem?_set_cases hslotj with ⟨-, rfl⟩ | ⟨-, hold⟩
    · cases hcj
    · exact (h.recorded j slotj cj hold hcj).append_entry (by simp [handed]) (by simp [answered])
  · rw [append_entry, List.map_singleton, always_concat, always_concat]
    refine ⟨⟨h.success, fun _ _ hx ↦ by cases hx⟩, fun thread' req' hx ↦ ?_⟩
    obtain ⟨rfl, rfl, rfl⟩ : thread = thread' ∧ req = req' ∧ status = .success := by
      simpa using hx
    have hrec := h.recorded i slot _ hslot hc
    have hkeep : ∀ f : Item Event Output → Option Bool, f (.event (.freeSlot thread i)) = none →
        latest f (hist ++ [.event (.freeSlot thread i)]) = latest f hist := by
      intro f hf
      rw [latest_concat, hf, Option.none_or]
    rw [hkeep _ rfl, hkeep _ rfl]
    exact ⟨hrec.handed (by simp) (by simp), hrec.finished rfl⟩

theorem Tracked.processInd {ind : Indication} (hs : s.step (.processInd ind) = some (s', outs)) :
    s'.Tracked (hist ++ entry (.processInd ind) outs) := by
  refine ⟨h.sound.step hs, fun j slot' c hslot' hc ↦ ?_, h.success_append ?_⟩
  · obtain ⟨slot, hslot, ⟨-, hsel, rfl⟩ | ⟨-, rfl⟩⟩ := processInd_slot hs hslot'
    · rw [Slot.receive_call] at hc
      exact (h.recorded j slot c hslot hc).receive ((h.sound.ok j slot hslot).holds c hc) hsel
    · exact (h.recorded j _ c hslot hc).append_entry (by simp [handed]) answered_processInd_ne
  · simp [(processInd_of_step hs).1]

theorem Tracked.step (hg : s.NotFull e) (hs : s.step e = some (s', outs)) :
    s'.Tracked (hist ++ entry e outs) := by
  cases e with
  | allocSlot thread req => exact h.allocSlot hg hs
  | op thread i op => exact h.callStep hs
  | freeSlot thread i => exact h.freeSlot hs
  | processInd ind => exact h.processInd hs

end

theorem tracked_initial : initial.Tracked [] where
  sound := sound_initial
  recorded := by
    intro i slot c hslot hc
    rw [initial, List.getElem?_replicate] at hslot
    obtain ⟨-, heq⟩ := ite_none_right_eq_some.mp hslot
    obtain rfl := some_inj.mp heq
    cases hc
  success := always_nil _

/-- When no call is going on, every slot is free. -/
theorem Sound.all_free (h : s.Sound) (hidle : ∀ slot ∈ s.slots, slot.call = none) :
    (∀ slot ∈ s.slots, slot = Slot.free) ∧ s.inUse = false := by
  have hall : ∀ slot ∈ s.slots, slot = Slot.free := by
    intro slot hmem
    obtain ⟨i, hi⟩ := List.getElem?_of_mem hmem
    exact (h.ok i slot hi).free (hidle slot hmem)
  refine ⟨hall, ?_⟩
  rw [h.inUse, List.any_eq_false]
  intro slot hmem
  rw [hall slot hmem]
  exact Bool.false_ne_true

/-- A run in which every call finds a free slot. -/
theorem answers_of_run (h : Run SyncArray.step NotFull initial hist s) : s.Answers hist := by
  have htracked : s.Tracked hist :=
    h.invariant (I := fun hist s ↦ s.Tracked hist) tracked_initial fun h hg hs ↦ h.step hg hs
  exact ⟨htracked.success, htracked.sound.all_free⟩

/-- A call that finds the buffer full returns success, with nothing sent. -/
theorem notFull_of_success (hs : s.step e = some (s', outs))
    (h : Always (fun pre x ↦ ∀ thread req, x = .out (.returned thread req .success) →
      latest (handed thread) pre = some true ∧ latest (answered thread req) pre = some true)
      (hist ++ entry e outs)) : s.NotFull e := by
  cases e with
  | allocSlot thread req =>
    obtain ⟨-, ⟨i, slot, hslot, hinUse, -, -⟩ | ⟨-, -, rfl⟩⟩ := allocSlot_of_step hs
    · exact ⟨slot, List.mem_of_getElem? hslot, hinUse⟩
    · rw [append_entry, List.map_singleton, always_concat] at h
      have hhanded := (h.2 thread req rfl).1
      rw [latest_concat, handed, if_pos rfl] at hhanded
      cases hhanded
  | op thread i op => trivial
  | freeSlot thread i => trivial
  | processInd ind => trivial

/-- The callers get what they rely on in exactly the runs in which every call finds a free slot. -/
theorem answers_iff_notFull (h : Run SyncArray.step (fun _ _ ↦ True) initial hist s) :
    s.Answers hist ↔ Run SyncArray.step NotFull initial hist s := by
  refine ⟨fun hans ↦ ?_, answers_of_run⟩
  -- the history says for each step that it was not the exception
  have hsuccess := hans.success
  clear hans
  induction h with
  | start => exact .start
  | step hrun _ hs ih =>
    exact (ih (always_append.mp hsuccess).1).step (notFull_of_success hs hsuccess) hs

/-- Two calls for the same indication: one is answered while it waits, the other times out. -/
theorem answers_iff_two_calls :
    ∃ hist s, Run SyncArray.step (fun _ _ ↦ True) initial hist s ∧
      outsOf hist = [.found ⟨1, 7, [5]⟩ [0], .returned 10 ⟨1, 3, 7, some 100⟩ .success,
        .returned 11 ⟨1, 3, 7, some 200⟩ .failureTimeout] ∧
      s.Answers hist := by
  obtain ⟨hist, s, hrun, hend⟩ := Run.exists_of_runEvents SyncArray.step NotFull initial
    [.allocSlot 10 ⟨1, 3, 7, some 100⟩, .allocSlot 11 ⟨1, 3, 7, some 200⟩, .op 10 0 .select,
      .op 11 1 .select, .op 10 0 (.sendReq .success), .op 11 1 (.sendReq .success), .op 10 0 .wait,
      .op 11 1 .wait, .processInd ⟨1, 7, [5]⟩, .op 10 0 .wake, .op 11 1 .expire, .freeSlot 10 0,
      .op 11 1 .relock, .freeSlot 11 1]
    (fun hist _ ↦ outsOf hist = [.found ⟨1, 7, [5]⟩ [0],
      .returned 10 ⟨1, 3, 7, some 100⟩ .success,
      .returned 11 ⟨1, 3, 7, some 200⟩ .failureTimeout]) (by decide +kernel)
  have hrun' : Run SyncArray.step (fun _ _ ↦ True) initial hist s :=
    hrun.mono fun _ _ _ ↦ trivial
  exact ⟨hist, s, hrun', hend, (answers_iff_notFull hrun').mpr hrun⟩

/-- A ninth call, while eight are going on, returns success. -/
theorem not_answers :
    ¬∀ hist s, Run SyncArray.step (fun _ _ ↦ True) initial hist s → s.Answers hist := by
  intro hanswers
  obtain ⟨hist, s, hrun, hend⟩ := Run.exists_of_runEvents SyncArray.step (fun _ _ ↦ True) initial
    ((List.range 9).map fun t ↦ .allocSlot t ⟨1, 3, 7, some 100⟩)
    (fun hist _ ↦ hist = (List.range 9).map (fun t ↦ .event (.allocSlot t
      ⟨1, 3, 7, some 100⟩)) ++ [.out (.returned 8 ⟨1, 3, 7, some 100⟩ .success)])
    (by decide +kernel)
  have hhist := hend
  have hhanded := ((hanswers hist s hrun).success _ _ [] hhist 8 _ rfl).1
  revert hhanded
  decide

end SyncArray

end MataDevice.SyncReq
