import MataDevice.Lib.Chain

/-!
# The linked list of the message queue

`linked_list` is a doubly linked list of elements that are allocated one by one. An element holds a
pointer to data and the function that frees the data, if there is one. `linked_list_add` puts an
element in front, `linked_list_remove` takes the last one and hands its data back, and
`linked_list_flush` frees all elements with their data.

A pointer that is not that of an element must not be dereferenced; a function that does so has no
result. The address of a new element comes from `malloc`, which may fail. The functions are called
with the handle of a list and with somewhere to put their result.

On the elements that the pointers link, the operations are those of a list.
-/

namespace MataDevice.MsgQueue

open Memory Chain

variable {α δ : Type}

/-- What an element holds. -/
structure ListData (α δ : Type) where
  dataPtr : α
  deallocFunc : Option δ
  deriving DecidableEq

/-- The elements are in `memory`. -/
structure ListState (α δ : Type) where
  pHead : Option ℕ
  pTail : Option ℕ
  memory : List (ℕ × Cell (ListData α δ))

inductive LinkedListErr
  | success
  | failureGeneral
  | invalidParameter
  | invalidHandle
  | unavailableResource
  | insufficientBuffer
  | empty
  deriving DecidableEq

/-- Write through a pointer. -/
def store (memory : List (ℕ × Cell (ListData α δ))) (addr : ℕ)
    (f : Cell (ListData α δ) → Cell (ListData α δ)) : Option (List (ℕ × Cell (ListData α δ))) :=
  (memory.lookup addr).map fun _ ↦ modify addr f memory

/-- `linked_list_init`. -/
def linkedListInit : ListState α δ := ⟨none, none, []⟩

/-- `linked_list_add`, with what `malloc` returns. -/
def linkedListAdd (l : ListState α δ) (malloc : Option ℕ) (dataObj : Option α)
    (dealloc : Option δ) : Option (ListState α δ × LinkedListErr) :=
  match dataObj, malloc with
  | none, _ => some (l, .invalidParameter)
  | some _, none => some (l, .failureGeneral)
  | some dataObj, some elem =>
    let tmp := l.pHead
    let memory := (elem, ⟨tmp, none, ⟨dataObj, dealloc⟩⟩) :: l.memory
    match tmp with
    | some tmp => do
      let memory ← store memory tmp fun cell ↦ { cell with prev := some elem }
      some ({ l with pHead := some elem, memory := memory }, .success)
    | none => some (⟨some elem, some elem, memory⟩, .success)

/-- `linked_list_remove`, with the data it hands back. -/
def linkedListRemove (l : ListState α δ) : Option (ListState α δ × LinkedListErr × Option α) :=
  match l.pTail with
  | none => some (l, .unavailableResource, none)
  | some tmp => do
    let cell ← l.memory.lookup tmp
    match cell.prev with
    | some tail =>
      let memory ← store l.memory tail fun cell ↦ { cell with next := none }
      some (⟨l.pHead, some tail, free tmp memory⟩, .success, some cell.data.dataPtr)
    | none => some (⟨none, none, free tmp l.memory⟩, .success, some cell.data.dataPtr)

/-- `linked_list_empty`. -/
def linkedListEmpty (l : ListState α δ) : Bool := l.pHead.isNone

/-- The loop of `linked_list_flush`, with the data it frees and the functions it calls for that. It
frees an element in every round. -/
def flushFrom : ℕ → Option ℕ → List (ℕ × Cell (ListData α δ)) →
    Option (List (ℕ × Cell (ListData α δ)) × List (δ × α))
  | _, none, memory => some (memory, [])
  | 0, some _, _ => none
  | rounds + 1, some head, memory => do
    let cell ← memory.lookup head
    let freed := cell.data.deallocFunc.toList.map fun dealloc ↦ (dealloc, cell.data.dataPtr)
    let (memory, freed') ← flushFrom rounds cell.next (free head memory)
    some (memory, freed ++ freed')

/-- `linked_list_flush`. -/
def linkedListFlush (l : ListState α δ) : Option (ListState α δ × List (δ × α)) := do
  let (memory, freed) ← flushFrom l.memory.length l.pHead l.memory
  some (⟨none, none, memory⟩, freed)

/-! ## The elements -/

variable {addr : ℕ} {x : ListData α δ} {es : List (ℕ × ListData α δ)}

/-- The list with the given elements. -/
def ListState.of (es : List (ℕ × ListData α δ)) : ListState α δ where
  pHead := firstOr es none
  pTail := lastOr es none
  memory := chain none es none

/-- No two elements have the same address. -/
def Apart (es : List (ℕ × ListData α δ)) : Prop := (es.map Prod.fst).Nodup

theorem Apart.of_cons (h : Apart ((addr, x) :: es)) : addr ∉ es.map Prod.fst ∧ Apart es :=
  List.nodup_cons.mp h

theorem Apart.of_concat (h : Apart (es ++ [(addr, x)])) : addr ∉ es.map Prod.fst ∧ Apart es := by
  rw [Apart, List.map_append, List.map_singleton, List.nodup_append] at h
  exact ⟨fun hmem ↦ h.2.2 _ hmem _ (List.mem_singleton_self _) rfl, h.1⟩

theorem linkedListInit_eq : (linkedListInit : ListState α δ) = .of [] := rfl

theorem linkedListEmpty_of : linkedListEmpty (ListState.of es) = true ↔ es = [] := by
  cases es with
  | nil => simp [linkedListEmpty, ListState.of]
  | cons p es => simp [linkedListEmpty, ListState.of, firstOr]

/-- A new element comes in front. -/
theorem linkedListAdd_of (h : Apart ((addr, x) :: es)) :
    linkedListAdd (.of es) (some addr) (some x.dataPtr) x.deallocFunc
      = some (.of ((addr, x) :: es), .success) := by
  cases es with
  | nil => rfl
  | cons p es =>
    obtain ⟨addr', y⟩ := p
    obtain ⟨hnew, hes⟩ := h.of_cons
    have hne : addr ≠ addr' := fun heq ↦ hnew (heq ▸ by simp)
    have hstore : store ((addr, ⟨some addr', none, x⟩) :: chain none ((addr', y) :: es) none) addr'
        (fun cell ↦ { cell with prev := some addr })
        = some (chain none ((addr, x) :: (addr', y) :: es) none) := by
      have hfound : (chain none ((addr', y) :: es) none).lookup addr'
          = some ⟨firstOr es none, none, y⟩ := List.lookup_cons_self
      rw [store, List.lookup_cons, beq_false_of_ne hne.symm]
      dsimp only
      rw [hfound, Option.map_some, modify_cons_of_ne hne, modify_prev hes.of_cons.1]
      rfl
    have hhead : (ListState.of ((addr', y) :: es)).pHead = some addr' := rfl
    rw [linkedListAdd, hhead]
    dsimp only
    rw [ListState.of, hstore]
    rfl

/-- The last element but one becomes the last, and the last one is freed. -/
theorem free_last {addr' : ℕ} {y : ListData α δ} (h : Apart (es ++ [(addr', y)] ++ [(addr, x)])) :
    (store (chain none (es ++ [(addr', y)] ++ [(addr, x)]) none) addr'
        fun cell ↦ { cell with next := none }).map (free addr)
      = some (chain none (es ++ [(addr', y)]) none) := by
  obtain ⟨hnot, hes⟩ := h.of_concat
  have hnot' := hes.of_concat.1
  have hne : addr ≠ addr' := fun heq ↦ hnot (heq ▸ by simp)
  have hfound : (chain none (es ++ [(addr', y)] ++ [(addr, x)]) none).lookup addr'
      = some ⟨some addr, lastOr es none, y⟩ := by
    rw [List.append_assoc]
    exact lookup_chain hnot'
  rw [store, hfound, Option.map_some, Option.map_some, chain_append, modify_append,
    modify_next hnot', chain, modify_cons_of_ne hne, free_append (by rwa [map_fst_chain]),
    free_cons_self]
  exact congrArg some (List.append_nil _)

/-- The last element is removed. -/
theorem linkedListRemove_of (h : Apart (es ++ [(addr, x)])) :
    linkedListRemove (.of (es ++ [(addr, x)])) = some (.of es, .success, some x.dataPtr) := by
  have htail : (ListState.of (es ++ [(addr, x)])).pTail = some addr := lastOr_concat
  have hcell : (ListState.of (es ++ [(addr, x)])).memory.lookup addr
      = some ⟨none, lastOr es none, x⟩ := lookup_chain h.of_concat.1
  rw [linkedListRemove, htail]
  dsimp only
  rw [hcell, Option.bind_eq_bind, Option.bind_some]
  cases es using List.reverseRecOn with
  | nil => simp [ListState.of, chain, free_cons_self]
  | append_singleton es p =>
    obtain ⟨addr', y⟩ := p
    have hhead : firstOr (es ++ [(addr', y)] ++ [(addr, x)]) none
        = firstOr (es ++ [(addr', y)]) none := by
      rw [firstOr_append, firstOr_append, firstOr_append]
      rfl
    obtain ⟨memory, hstore, hfree⟩ := Option.map_eq_some_iff.mp (free_last h)
    rw [lastOr_concat]
    dsimp only [ListState.of]
    rw [hstore, Option.bind_eq_bind, Option.bind_some, hfree, hhead, lastOr_concat]

/-- The loop frees the elements from the first to the last. -/
theorem flushFrom_of (prev : Option ℕ) {rounds : ℕ} (h : Apart es) (hr : es.length ≤ rounds) :
    flushFrom rounds (firstOr es none) (chain prev es none)
      = some ([], es.flatMap fun p ↦ p.2.deallocFunc.toList.map (·, p.2.dataPtr)) := by
  induction es generalizing prev rounds with
  | nil => cases rounds <;> rfl
  | cons p es ih =>
    obtain ⟨addr, x⟩ := p
    obtain ⟨rounds, rfl⟩ := Nat.exists_eq_add_one_of_ne_zero (Nat.ne_zero_of_lt hr)
    have hrest := ih (some addr) h.of_cons.2 (Nat.le_of_lt_succ hr)
    rw [firstOr_cons, flushFrom, chain, List.lookup_cons_self, Option.bind_eq_bind, Option.bind_some,
      free_cons_self]
    dsimp only
    rw [hrest]
    rfl

theorem linkedListFlush_of (h : Apart es) :
    linkedListFlush (.of es)
      = some (.of [], es.flatMap fun p ↦ p.2.deallocFunc.toList.map (·, p.2.dataPtr)) := by
  have hloop := flushFrom_of none h (length_chain none none es).ge
  rw [linkedListFlush, ListState.of, hloop]
  rfl

end MataDevice.MsgQueue
