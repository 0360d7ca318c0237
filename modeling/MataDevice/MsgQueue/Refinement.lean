import MataDevice.MsgQueue.LinkedList

/-!
# The linked list as a double-ended sequence

`linked_list_search` goes from the head to the first element whose data satisfies a predicate, and
takes the element out if it is asked to; the data is then freed if the caller does not want it.

Through any calls, the linked list is the sequence of its data: `linked_list_add` puts an element at
the head, `linked_list_remove` takes the tail, `linked_list_search` finds the element nearest the
head, and `linked_list_flush` drops all. What has been added is in the list, has been handed to a
caller that took it out, or has been dropped, and is freed when it is dropped only. A search that
leaves the element where it is only lets the caller look at the data.
-/

namespace MataDevice.MsgQueue

open Memory Chain List
open Option (bind_some bind_eq_bind map_some)

variable {α δ : Type}

/-! ## The search -/

/-- The loop of `linked_list_search`, up to the element that it finds -/
def searchFrom (equal : α → Bool) : ℕ → Option ℕ → List (ℕ × Cell (ListData α δ)) →
    Option (Option (ℕ × Cell (ListData α δ)))
  | _, none, _ => some none
  | 0, some _, _ => none
  | rounds + 1, some tmp, memory => do
    let cell ← memory.lookup tmp
    if equal cell.data.dataPtr then some (some (tmp, cell))
    else searchFrom equal rounds cell.next memory

/-- What comes before an element is linked to what comes behind it. -/
def ListState.linkNext (l : ListState α δ) (prev next : Option ℕ) : Option (ListState α δ) :=
  match prev with
  | none => some { l with pHead := next }
  | some prev =>
    (store l.memory prev fun cell ↦ { cell with next := next }).map fun memory ↦
      { l with memory := memory }

/-- What comes behind an element is linked to what comes before it. -/
def ListState.linkPrev (l : ListState α δ) (prev next : Option ℕ) : Option (ListState α δ) :=
  match next with
  | none => some { l with pTail := prev }
  | some next =>
    (store l.memory next fun cell ↦ { cell with prev := prev }).map fun memory ↦
      { l with memory := memory }

/-- An element is taken out and freed. -/
def ListState.unlink (l : ListState α δ) (addr : ℕ) (cell : Cell (ListData α δ)) :
    Option (ListState α δ) := do
  let l ← l.linkNext cell.prev cell.next
  let l ← l.linkPrev cell.prev cell.next
  some { l with memory := free addr l.memory }

/-- The call of the function that frees the data of an element, if there is one -/
def ListData.deallocs (x : ListData α δ) : List (δ × α) :=
  x.deallocFunc.toList.map fun dealloc ↦ (dealloc, x.dataPtr)

/-- What a call gives its caller, with the functions it calls for data: `written` is what is put
where the caller wants the data. -/
structure Outcome (α δ : Type) where
  err : LinkedListErr
  written : Option (Option α) := none
  freed : List (δ × α) := []
  deriving DecidableEq

/-- `linked_list_search`: `wantsData` if there is somewhere to put the data, `equal` applied to
`data_0` -/
def linkedListSearch (l : ListState α δ) (wantsData : Bool) (equal : Option (α → Bool))
    (rmIfFound : Bool) : Option (ListState α δ × Outcome α δ) :=
  match equal with
  | none => some (l, { err := .invalidHandle })
  | some equal =>
    if l.pTail.isNone then some (l, { err := .unavailableResource })
    else do
      match ← searchFrom equal l.memory.length l.pHead l.memory with
      | none => some (l, { err := .success, written := if wantsData then some none else none })
      | some found =>
        let written := if wantsData then some (some found.2.data.dataPtr) else none
        if rmIfFound then
          let l ← l.unlink found.1 found.2
          some (l, ⟨.success, written, if wantsData then [] else found.2.data.deallocs⟩)
        else some (l, { err := .success, written := written })

section

variable {addr : ℕ} {x : ListData α δ} {es es' pre post : List (ℕ × ListData α δ)}

theorem apart_append_cons (h : Apart (pre ++ (addr, x) :: post)) :
    addr ∉ pre.map Prod.fst ∧ addr ∉ post.map Prod.fst ∧ Apart (pre ++ post) := by
  have hperm : (pre ++ (addr, x) :: post).Perm ((addr, x) :: (pre ++ post)) := perm_middle
  have hcons : Apart ((addr, x) :: (pre ++ post)) := ((hperm.map Prod.fst).nodup_iff).mp h
  obtain ⟨hnot, hrest⟩ := hcons.of_cons
  rw [map_append, mem_append, not_or] at hnot
  exact ⟨hnot.1, hnot.2, hrest⟩

theorem Apart.of_append (h : Apart (pre ++ post)) :
    Apart pre ∧ Apart post ∧ ∀ addr ∈ pre.map Prod.fst, addr ∉ post.map Prod.fst := by
  rw [Apart, map_append, nodup_append] at h
  exact ⟨h.1, h.2.1, fun addr hpre hpost ↦ h.2.2 addr hpre addr hpost rfl⟩

variable {equal : α → Bool} {l : ListState α δ}

/-- The search stops at the first element whose data it looks for. -/
theorem searchFrom_of_find (hpre : ∀ p ∈ pre, equal p.2.dataPtr = false)
    (hx : equal x.dataPtr = true) {rounds : ℕ} (hr : pre.length < rounds)
    (h : Apart (es ++ (pre ++ (addr, x) :: post))) :
    searchFrom equal rounds (firstOr (pre ++ (addr, x) :: post) none)
        (chain none (es ++ (pre ++ (addr, x) :: post)) none)
      = some (some (addr, ⟨firstOr post none, lastOr (es ++ pre) none, x⟩)) := by
  induction pre generalizing es rounds with
  | nil =>
    obtain ⟨rounds, rfl⟩ := Nat.exists_eq_add_one_of_ne_zero (Nat.ne_zero_of_lt hr)
    rw [nil_append, firstOr_cons, searchFrom, lookup_chain (apart_append_cons h).1,
      bind_eq_bind, bind_some, if_pos hx, List.append_nil]
  | cons p pre ih =>
    obtain ⟨addr', y⟩ := p
    obtain ⟨rounds, rfl⟩ := Nat.exists_eq_add_one_of_ne_zero (Nat.ne_zero_of_lt hr)
    have hy : equal y.dataPtr = false := hpre (addr', y) mem_cons_self
    have hmove : ∀ tail : List (ℕ × ListData α δ),
        es ++ ((addr', y) :: pre ++ tail) = es ++ [(addr', y)] ++ (pre ++ tail) := fun tail ↦ by
      simp
    have h' : Apart (es ++ [(addr', y)] ++ (pre ++ (addr, x) :: post)) := hmove _ ▸ h
    have hrest := ih (fun p hp ↦ hpre p (mem_cons_of_mem _ hp))
      (Nat.lt_of_succ_lt_succ hr) h'
    rw [cons_append] at h ⊢
    rw [firstOr_cons, searchFrom, lookup_chain (apart_append_cons h).1, bind_eq_bind,
      bind_some, hy, if_neg Bool.false_ne_true, ← cons_append, hmove]
    rw [append_assoc es [(addr', y)] pre] at hrest
    exact hrest

/-- The search comes to the end if no element has data that it looks for. -/
theorem searchFrom_of_none (hes : ∀ p ∈ es', equal p.2.dataPtr = false)
    {rounds : ℕ} (hr : es'.length ≤ rounds) (h : Apart (es ++ es')) :
    searchFrom equal rounds (firstOr es' none) (chain none (es ++ es') none) = some none := by
  induction es' generalizing es rounds with
  | nil => cases rounds <;> rfl
  | cons p es' ih =>
    obtain ⟨addr', y⟩ := p
    obtain ⟨rounds, rfl⟩ := Nat.exists_eq_add_one_of_ne_zero (Nat.ne_zero_of_lt hr)
    have hy : equal y.dataPtr = false := hes (addr', y) mem_cons_self
    have hmove : es ++ (addr', y) :: es' = es ++ [(addr', y)] ++ es' := by simp
    have h' : Apart (es ++ [(addr', y)] ++ es') := hmove ▸ h
    have hrest := ih (fun p hp ↦ hes p (mem_cons_of_mem _ hp)) (Nat.le_of_lt_succ hr) h'
    rw [firstOr_cons, searchFrom, lookup_chain (apart_append_cons h).1, bind_eq_bind,
      bind_some, hy, if_neg Bool.false_ne_true, hmove]
    exact hrest

/-- The elements before one that is taken out are linked to those behind it. -/
theorem linkNext_of {rest : List (ℕ × Cell (ListData α δ))} {prev : Option ℕ}
    (next : Option ℕ) (h : Apart pre) (hrest : ∀ p ∈ pre, p.1 ∉ rest.map Prod.fst)
    (hhead : l.pHead = firstOr pre prev) (hmem : l.memory = chain none pre prev ++ rest) :
    l.linkNext (lastOr pre none) next
      = some { l with pHead := firstOr pre next, memory := chain none pre next ++ rest } := by
  cases pre using List.reverseRecOn with
  | nil =>
    rw [lastOr_nil, ListState.linkNext, hmem]
    rfl
  | append_singleton pre p =>
    obtain ⟨addr', y⟩ := p
    have hnot : addr' ∉ pre.map Prod.fst := h.of_concat.1
    have hnot' : addr' ∉ rest.map Prod.fst := hrest (addr', y) (by simp)
    have hfirst : firstOr (pre ++ [(addr', y)]) prev = firstOr (pre ++ [(addr', y)]) next := by
      rw [firstOr_append, firstOr_append]
      rfl
    have hfound : l.memory.lookup addr' = some ⟨prev, lastOr pre none, y⟩ := by
      rw [hmem, lookup_append, lookup_chain hnot]
      rfl
    rw [lastOr_concat, ListState.linkNext, ← hhead.trans hfirst, store, hfound, map_some,
      map_some, hmem, modify_append, modify_next hnot,
      modify_of_not_mem hnot']

/-- The elements behind one that is taken out are linked to those before it. -/
theorem linkPrev_of {front : List (ℕ × Cell (ListData α δ))} {next : Option ℕ}
    (prev : Option ℕ) (h : Apart post) (hfront : ∀ p ∈ post, p.1 ∉ front.map Prod.fst)
    (htail : l.pTail = lastOr post next) (hmem : l.memory = front ++ chain next post none) :
    l.linkPrev prev (firstOr post none)
      = some { l with pTail := lastOr post prev, memory := front ++ chain prev post none } := by
  cases post with
  | nil =>
    rw [firstOr_nil, ListState.linkPrev, hmem]
    rfl
  | cons p post =>
    obtain ⟨addr', y⟩ := p
    have hnot : addr' ∉ front.map Prod.fst := hfront (addr', y) mem_cons_self
    have hlast : lastOr ((addr', y) :: post) next = lastOr ((addr', y) :: post) prev := by
      rw [lastOr_cons, lastOr_cons]
    have hfound : l.memory.lookup addr' = some ⟨firstOr post none, next, y⟩ := by
      rw [hmem, lookup_append_of_not_mem hnot]
      exact lookup_cons_self
    rw [firstOr_cons, ListState.linkPrev, ← htail.trans hlast, store, hfound, map_some,
      map_some, hmem, modify_append,
      modify_of_not_mem hnot, modify_prev h.of_cons.1]

/-- The cells of the elements, around one of them -/
theorem chain_append_cons (pre post : List (ℕ × ListData α δ)) :
    chain none (pre ++ (addr, x) :: post) none
      = chain none pre (some addr)
        ++ (addr, ⟨firstOr post none, lastOr pre none, x⟩) :: chain (some addr) post none := by
  rw [chain_append, firstOr_cons, chain]

/-- An element is taken out, wherever it stands. -/
theorem unlink_of (h : Apart (pre ++ (addr, x) :: post)) :
    (ListState.of (pre ++ (addr, x) :: post)).unlink addr
        ⟨firstOr post none, lastOr pre none, x⟩ = some (.of (pre ++ post)) := by
  obtain ⟨hpre, hpost, hrest⟩ := apart_append_cons h
  obtain ⟨hapre, hapost, hdisj⟩ := hrest.of_append
  have hnext := linkNext_of (l := .of (pre ++ (addr, x) :: post)) (firstOr post none) hapre
    (fun p hp hmem ↦ by
      have hin : p.1 ∈ pre.map Prod.fst := mem_map_of_mem hp
      rw [map_cons, map_fst_chain, mem_cons] at hmem
      rcases hmem with heq | hmem
      · rw [heq] at hin
        exact hpre hin
      · exact hdisj _ hin hmem)
    (by rw [ListState.of, firstOr_append, firstOr_cons]) (chain_append_cons pre post)
  have hprev := linkPrev_of
    (l := ⟨firstOr pre (firstOr post none), lastOr post (some addr),
      (chain none pre (firstOr post none) ++ [(addr, ⟨firstOr post none, lastOr pre none, x⟩)])
        ++ chain (some addr) post none⟩)
    (lastOr pre none) hapost
    (fun p hp hmem ↦ by
      have hin : p.1 ∈ post.map Prod.fst := mem_map_of_mem hp
      rw [map_append, map_fst_chain, mem_append, map_singleton,
        mem_singleton] at hmem
      rcases hmem with hmem | heq
      · exact hdisj _ hmem hin
      · rw [heq] at hin
        exact hpost hin)
    rfl rfl
  have htail : (ListState.of (pre ++ (addr, x) :: post)).pTail = lastOr post (some addr) := by
    rw [ListState.of, lastOr_append, lastOr_cons]
  rw [ListState.unlink, hnext, bind_eq_bind, bind_some, htail, append_cons,
    hprev, bind_some]
  dsimp only
  rw [append_assoc, free_append (by rwa [map_fst_chain]), singleton_append,
    free_cons_self, ← chain_append, ListState.of, firstOr_append, lastOr_append]

/-- The first element with what is looked for, and those before and behind it -/
theorem exists_of_find (h : es.find? (equal ·.2.dataPtr) = some (addr, x)) :
    ∃ pre post, es = pre ++ (addr, x) :: post ∧ equal x.dataPtr = true ∧
      ∀ p ∈ pre, equal p.2.dataPtr = false := by
  obtain ⟨hx, pre, post, hes, hpre⟩ := find?_eq_some_iff_append.mp h
  exact ⟨pre, post, hes, hx, fun p hp ↦ by simpa using hpre p hp⟩

end

/-! ## Calls -/

/-- A call of one of the functions of the list, where a new element comes from `malloc` -/
inductive Op (α δ : Type)
  | add (malloc : Option ℕ) (dataObj : Option α) (dealloc : Option δ)
  | remove (hasDataObj : Bool)
  | search (wantsData : Bool) (equal : Option (α → Bool)) (rmIfFound : Bool)
  | flush

namespace ListState

/-- `malloc` does not give an address that is in use. -/
def step (l : ListState α δ) : Op α δ → Option (ListState α δ × Outcome α δ)
  | .add malloc dataObj dealloc =>
    if malloc.any (· ∈ l.memory.map Prod.fst) then none
    else (linkedListAdd l malloc dataObj dealloc).map fun r ↦ (r.1, { err := r.2 })
  | .remove false => some (l, { err := .invalidParameter })
  | .remove true =>
    (linkedListRemove l).map fun r ↦ (r.1, { err := r.2.1, written := r.2.2.map some })
  | .search wantsData equal rmIfFound => linkedListSearch l wantsData equal rmIfFound
  | .flush => (linkedListFlush l).map fun r ↦ (r.1, ⟨.success, none, r.2⟩)

/-- The calls one after the other, with what they give -/
def run (l : ListState α δ) : List (Op α δ) → Option (ListState α δ × List (Outcome α δ))
  | [] => some (l, [])
  | op :: ops => do
    let first ← l.step op
    let rest ← first.1.run ops
    some (rest.1, first.2 :: rest.2)

/-- The data along one of the two links of the elements, from a pointer on -/
def follow (link : Cell (ListData α δ) → Option ℕ) (memory : List (ℕ × Cell (ListData α δ))) :
    ℕ → Option ℕ → Option (List (ListData α δ))
  | _, none => some []
  | 0, some _ => none
  | rounds + 1, some tmp => do
    let cell ← memory.lookup tmp
    let rest ← follow link memory rounds (link cell)
    some (cell.data :: rest)

/-- From `p_head` on, along `next` -/
def followNext (l : ListState α δ) : Option (List (ListData α δ)) :=
  follow Cell.next l.memory l.memory.length l.pHead

/-- From `p_tail` on, along `prev` -/
def followPrev (l : ListState α δ) : Option (List (ListData α δ)) :=
  follow Cell.prev l.memory l.memory.length l.pTail

end ListState

/-! ## The sequence -/

/-- What a call gives, and what becomes of the data: what comes into the sequence, what goes to the
caller out of it, and what is dropped -/
structure Effect (α δ : Type) where
  err : LinkedListErr
  written : Option (Option α) := none
  added : List (ListData α δ) := []
  handed : List (ListData α δ) := []
  dropped : List (ListData α δ) := []

/-- The data that is dropped is freed, and no other. -/
def Effect.outcome (e : Effect α δ) : Outcome α δ :=
  ⟨e.err, e.written, e.dropped.flatMap ListData.deallocs⟩

/-- What a call does to the sequence, whose first element is at the head -/
def specStep (L : List (ListData α δ)) : Op α δ → List (ListData α δ) × Effect α δ
  | .add _ none _ => (L, { err := .invalidParameter })
  | .add none (some _) _ => (L, { err := .failureGeneral })
  | .add (some _) (some dataObj) dealloc =>
    (⟨dataObj, dealloc⟩ :: L, { err := .success, added := [⟨dataObj, dealloc⟩] })
  | .remove false => (L, { err := .invalidParameter })
  | .remove true =>
    match L.getLast? with
    | none => (L, { err := .unavailableResource })
    | some x => (L.dropLast, { err := .success, written := some (some x.dataPtr), handed := [x] })
  | .search _ none _ => (L, { err := .invalidHandle })
  | .search wantsData (some equal) rmIfFound =>
    if L = [] then (L, { err := .unavailableResource })
    else
      match L.find? (equal ·.dataPtr) with
      | none => (L, { err := .success, written := if wantsData then some none else none })
      | some x =>
        let written := if wantsData then some (some x.dataPtr) else none
        if rmIfFound then
          (L.eraseP (equal ·.dataPtr),
            if wantsData then { err := .success, written := written, handed := [x] }
            else { err := .success, written := written, dropped := [x] })
        else (L, { err := .success, written := written })
  | .flush => ([], { err := .success, dropped := L })

/-- What the calls do to the sequence one after the other -/
def specRun (L : List (ListData α δ)) : List (Op α δ) → List (ListData α δ) × List (Effect α δ)
  | [] => (L, [])
  | op :: ops =>
    let first := specStep L op
    let rest := specRun first.1 ops
    (rest.1, first.2 :: rest.2)

section

variable {addr : ℕ} {x : ListData α δ} {es es' pre post : List (ℕ × ListData α δ)}
  {L : List (ListData α δ)} {l : ListState α δ} {op : Op α δ} {ops : List (Op α δ)}

theorem eraseP_append_cons {equal : α → Bool} {front behind : List (ListData α δ)}
    (hx : equal x.dataPtr = true) (hfront : ∀ y ∈ front, ¬ equal y.dataPtr = true) :
    (front ++ x :: behind).eraseP (equal ·.dataPtr) = front ++ behind := by
  rw [eraseP_append_right _ hfront,
    eraseP_cons_of_pos (p := fun y : ListData α δ ↦ equal y.dataPtr) hx]

/-- A call moves data around: into the sequence, out of it to the caller, or out of it to be
dropped. -/
theorem perm_specStep (L : List (ListData α δ)) (op : Op α δ) :
    (L ++ (specStep L op).2.added).Perm
      ((specStep L op).1 ++ ((specStep L op).2.handed ++ (specStep L op).2.dropped)) := by
  have hsame : (L ++ []).Perm (L ++ ([] ++ [])) := by simp
  fun_cases specStep L op with
  | case1 => exact hsame
  | case2 => exact hsame
  | case3 malloc dataObj dealloc =>
    exact (perm_append_singleton (⟨dataObj, dealloc⟩ : ListData α δ) L).trans (by simp)
  | case4 => exact hsame
  | case5 => exact hsame
  | case6 x hlast =>
    have hL : L.dropLast ++ [x] = L := dropLast_append_getLast? x hlast
    simp [hL]
  | case7 => exact hsame
  | case8 => exact hsame
  | case9 => exact hsame
  | case10 wantsData equal hne x hfind =>
    obtain ⟨hx, pre, post, rfl, hpre⟩ := find?_eq_some_iff_append.mp hfind
    have herase : (pre ++ x :: post).eraseP (equal ·.dataPtr) = pre ++ post :=
      eraseP_append_cons hx fun y hy ↦ by simpa using hpre y hy
    have hperm : (pre ++ x :: post).Perm (pre ++ post ++ [x]) :=
      perm_middle.trans (perm_append_singleton x (pre ++ post)).symm
    dsimp only
    rw [herase]
    cases wantsData with
    | false => simpa using hperm
    | true => simpa using hperm
  | case11 => exact hsame
  | case12 =>
    rw [List.append_nil]
    exact List.Perm.refl L

/-- The call may be made. -/
def ListState.Allows (l : ListState α δ) : Op α δ → Prop
  | .add malloc _ _ => ∀ addr ∈ malloc, addr ∉ l.memory.map Prod.fst
  | _ => True

theorem allows_of_step (h : (l.step op).isSome = true) : l.Allows op := by
  cases op with
  | add malloc dataObj dealloc =>
    intro addr hmalloc hmem
    obtain rfl := Option.mem_def.mp hmalloc
    have hany : (some addr).any (· ∈ l.memory.map Prod.fst) = true := by simpa using hmem
    rw [ListState.step, if_pos hany] at h
    cases h
  | remove hasDataObj => trivial
  | search wantsData equal rmIfFound => trivial
  | flush => trivial

/-- The outcome of a call, and the list that it leaves, are those of the sequence. -/
def Matches (es : List (ℕ × ListData α δ)) (op : Op α δ) : Prop :=
  ∃ es', (ListState.of es).step op = some (.of es', (specStep (es.map Prod.snd) op).2.outcome) ∧
    Apart es' ∧ es'.map Prod.snd = (specStep (es.map Prod.snd) op).1

theorem matches_add (h : Apart es) {malloc : Option ℕ} {dataObj : Option α} {dealloc : Option δ}
    (hallows : (ListState.of es).Allows (.add malloc dataObj dealloc)) :
    Matches es (.add malloc dataObj dealloc) := by
  have hany : malloc.any (· ∈ (ListState.of es).memory.map Prod.fst) ≠ true := by
    intro hany
    cases malloc with
    | none => cases hany
    | some addr => exact hallows addr rfl (by simpa using hany)
  cases dataObj with
  | none => exact ⟨es, by rw [ListState.step, if_neg hany]; rfl, h, rfl⟩
  | some dataObj =>
    cases malloc with
    | none => exact ⟨es, by rw [ListState.step, if_neg hany]; rfl, h, rfl⟩
    | some addr =>
      have hnot : addr ∉ es.map Prod.fst := by
        have hnot := hallows addr rfl
        rwa [ListState.of, map_fst_chain] at hnot
      have hapart : Apart ((addr, ⟨dataObj, dealloc⟩) :: es) := nodup_cons.mpr ⟨hnot, h⟩
      refine ⟨_, ?_, hapart, rfl⟩
      rw [ListState.step, if_neg hany, linkedListAdd_of hapart]
      rfl

theorem matches_remove (h : Apart es) (hasDataObj : Bool) : Matches es (.remove hasDataObj) := by
  cases hasDataObj with
  | false => exact ⟨es, rfl, h, rfl⟩
  | true =>
    cases es using List.reverseRecOn with
    | nil => exact ⟨[], rfl, h, rfl⟩
    | append_singleton es p =>
      obtain ⟨addr, x⟩ := p
      have hlast : (((es ++ [(addr, x)]).map Prod.snd).getLast?) = some x := by simp
      refine ⟨es, ?_, h.of_concat.2, ?_⟩
      · rw [ListState.step, linkedListRemove_of h, specStep, hlast]
        rfl
      · rw [specStep, hlast]
        simp

theorem matches_flush (h : Apart es) : Matches es .flush := by
  refine ⟨[], ?_, nodup_nil, rfl⟩
  rw [ListState.step, linkedListFlush_of h, specStep, Effect.outcome, flatMap_map]
  rfl

theorem isNone_pTail (h : es ≠ []) : (ListState.of es).pTail.isNone = false := by
  rw [Option.isNone_eq_false_iff, Option.isSome_iff_ne_none]
  exact fun hnone ↦ h (lastOr_eq_none_iff.mp hnone)

/-- What a search finds is what it finds in the sequence. -/
theorem matches_search_of_found {equal : α → Bool} (h : Apart (pre ++ (addr, x) :: post))
    (hx : equal x.dataPtr = true) (hpre : ∀ p ∈ pre, equal p.2.dataPtr = false)
    (wantsData rmIfFound : Bool) :
    Matches (pre ++ (addr, x) :: post) (.search wantsData (some equal) rmIfFound) := by
  have htail := isNone_pTail
    (append_ne_nil_of_right_ne_nil pre (cons_ne_nil (addr, x) post))
  have hfound : searchFrom equal (ListState.of (pre ++ (addr, x) :: post)).memory.length
      (ListState.of (pre ++ (addr, x) :: post)).pHead
      (ListState.of (pre ++ (addr, x) :: post)).memory
      = some (some (addr, ⟨firstOr post none, lastOr pre none, x⟩)) := by
    have hlen : pre.length < (ListState.of (pre ++ (addr, x) :: post)).memory.length := by
      rw [ListState.of, length_chain, length_append, length_cons]
      omega
    exact searchFrom_of_find hpre hx hlen (show Apart ([] ++ _) from h)
  have hmap : (pre ++ (addr, x) :: post).map Prod.snd
      = pre.map Prod.snd ++ x :: post.map Prod.snd := by
    rw [map_append, map_cons]
  have hpre' : ∀ y ∈ pre.map Prod.snd, ¬ equal y.dataPtr = true := by
    intro y hy
    obtain ⟨p, hp, rfl⟩ := mem_map.mp hy
    simp [hpre p hp]
  have hfind : (pre.map Prod.snd ++ x :: post.map Prod.snd).find? (equal ·.dataPtr) = some x :=
    find?_eq_some_iff_append.mpr ⟨hx, _, _, rfl, fun y hy ↦ by simp [hpre' y hy]⟩
  have herase : (pre.map Prod.snd ++ x :: post.map Prod.snd).eraseP (equal ·.dataPtr)
      = (pre ++ post).map Prod.snd := by
    rw [eraseP_append_cons hx hpre', map_append]
  rw [Matches, hmap, specStep, if_neg (by simp), hfind, ListState.step, linkedListSearch, htail,
    if_neg Bool.false_ne_true, hfound]
  cases rmIfFound with
  | false => exact ⟨_, rfl, h, hmap⟩
  | true =>
    refine ⟨pre ++ post, ?_, (apart_append_cons h).2.2, herase.symm⟩
    rw [bind_eq_bind, bind_some]
    dsimp only
    rw [if_pos rfl, if_pos rfl, unlink_of h, herase]
    cases wantsData with
    | false => simp [Effect.outcome]
    | true => rfl

theorem matches_search (h : Apart es) (wantsData : Bool) (equal : Option (α → Bool))
    (rmIfFound : Bool) : Matches es (.search wantsData equal rmIfFound) := by
  cases equal with
  | none => exact ⟨es, rfl, h, rfl⟩
  | some equal =>
    cases hfind : es.find? (equal ·.2.dataPtr) with
    | none =>
      have hes : ∀ p ∈ es, equal p.2.dataPtr = false := fun p hp ↦
        Bool.eq_false_iff.mpr (List.find?_eq_none.mp hfind p hp)
      have hfind' : (es.map Prod.snd).find? (equal ·.dataPtr) = none := by
        rw [find?_map]
        exact congrArg (Option.map Prod.snd) hfind
      have hfound : searchFrom equal (ListState.of es).memory.length (ListState.of es).pHead
          (ListState.of es).memory = some none :=
        searchFrom_of_none hes (length_chain none none es).ge (show Apart ([] ++ es) from h)
      cases es with
      | nil => exact ⟨[], rfl, h, rfl⟩
      | cons p es =>
        have hspec : specStep ((p :: es).map Prod.snd) (.search wantsData (some equal) rmIfFound)
            = ((p :: es).map Prod.snd,
              { err := .success, written := if wantsData then some none else none }) := by
          rw [specStep, hfind', if_neg (by simp)]
        refine ⟨p :: es, ?_, h, by rw [hspec]⟩
        rw [ListState.step, linkedListSearch, isNone_pTail (cons_ne_nil p es),
          if_neg Bool.false_ne_true, hfound, hspec]
        rfl
    | some p =>
      obtain ⟨addr, x⟩ := p
      obtain ⟨pre, post, rfl, hx, hpre⟩ := exists_of_find hfind
      exact matches_search_of_found h hx hpre wantsData rmIfFound

/-- A call that may be made does to the elements what it is to do. -/
theorem matches_of (h : Apart es) (hallows : (ListState.of es).Allows op) : Matches es op := by
  cases op with
  | add malloc dataObj dealloc => exact matches_add h hallows
  | remove hasDataObj => exact matches_remove h hasDataObj
  | search wantsData equal rmIfFound => exact matches_search h wantsData equal rmIfFound
  | flush => exact matches_flush h

/-- What a run of calls leaves, and what it gives -/
theorem exists_of_run {outs : List (Outcome α δ)} (h : Apart es)
    (hrun : (ListState.of es).run ops = some (l, outs)) :
    ∃ es', l = .of es' ∧ Apart es' ∧ es'.map Prod.snd = (specRun (es.map Prod.snd) ops).1 ∧
      outs = (specRun (es.map Prod.snd) ops).2.map Effect.outcome := by
  induction ops generalizing es outs with
  | nil =>
    obtain ⟨rfl, rfl⟩ := Prod.mk.inj (Option.some.inj hrun)
    exact ⟨es, rfl, h, rfl, rfl⟩
  | cons op ops ih =>
    rw [ListState.run] at hrun
    obtain ⟨first, hstep, hrest⟩ := Option.bind_eq_some_iff.mp hrun
    obtain ⟨rest, hrun', hres⟩ := Option.bind_eq_some_iff.mp hrest
    obtain ⟨es₁, hstep₁, h₁, hmap⟩ := matches_of h (allows_of_step (Option.isSome_of_mem hstep))
    obtain rfl := Option.some.inj (hstep.symm.trans hstep₁)
    obtain ⟨rfl, rfl⟩ := Prod.mk.inj (Option.some.inj hres)
    obtain ⟨es', hl, h', hmap', houts⟩ := ih h₁ hrun'
    rw [hmap] at hmap' houts
    exact ⟨es', hl, h', hmap', by rw [houts]; rfl⟩

/-- What has been added is in the sequence, has been handed out or has been dropped. -/
theorem perm_specRun (L : List (ListData α δ)) (ops : List (Op α δ)) :
    (L ++ (specRun L ops).2.flatMap Effect.added).Perm
      ((specRun L ops).1 ++ ((specRun L ops).2.flatMap Effect.handed
        ++ (specRun L ops).2.flatMap Effect.dropped)) := by
  induction ops generalizing L with
  | nil => simp [specRun]
  | cons op ops ih =>
    rw [specRun]
    dsimp only
    rw [flatMap_cons, flatMap_cons, flatMap_cons]
    have hfirst := perm_specStep L op
    have hrest := ih (specStep L op).1
    rw [← Multiset.coe_eq_coe] at hfirst hrest ⊢
    simp only [← Multiset.coe_add] at hfirst hrest ⊢
    rw [← add_assoc, hfirst, add_right_comm, hrest]
    ac_rfl

theorem follow_next_of {rounds : ℕ} (hr : es'.length ≤ rounds) (h : Apart (es ++ es')) :
    ListState.follow Cell.next (chain none (es ++ es') none) rounds (firstOr es' none)
      = some (es'.map Prod.snd) := by
  induction es' generalizing es rounds with
  | nil => cases rounds <;> rfl
  | cons p es' ih =>
    obtain ⟨addr, x⟩ := p
    obtain ⟨rounds, rfl⟩ := Nat.exists_eq_add_one_of_ne_zero (Nat.ne_zero_of_lt hr)
    have hrest := ih (Nat.le_of_lt_succ hr) (append_cons es _ es' ▸ h)
    rw [← append_cons] at hrest
    rw [firstOr_cons, ListState.follow, lookup_chain (apart_append_cons h).1, bind_eq_bind,
      bind_some, hrest]
    rfl

theorem follow_prev_of {rounds : ℕ} (hr : es.length ≤ rounds) (h : Apart (es ++ es')) :
    ListState.follow Cell.prev (chain none (es ++ es') none) rounds (lastOr es none)
      = some (es.map Prod.snd).reverse := by
  induction es using List.reverseRecOn generalizing es' rounds with
  | nil => cases rounds <;> rfl
  | append_singleton es p ih =>
    obtain ⟨addr, x⟩ := p
    rw [length_append, length_singleton] at hr
    obtain ⟨rounds, rfl⟩ := Nat.exists_eq_add_one_of_ne_zero (Nat.ne_zero_of_lt hr)
    rw [← append_cons] at h
    have hrest := ih (Nat.le_of_lt_succ hr) h
    rw [lastOr_concat, ← append_cons, ListState.follow, lookup_chain (apart_append_cons h).1,
      bind_eq_bind, bind_some, hrest, map_append, reverse_append]
    rfl

/-- **The linked list is a double-ended sequence.** After any calls the elements along `next` from
`p_head` are those of the sequence, and along `prev` from `p_tail` the same the other way round, and
each call gave what it gives on the sequence. All data that has been added is in the list, has been
handed to the caller that took it out, or has been dropped, and is freed when it is dropped only;
and the calls that may be made next go through. -/
theorem linkedList_refines {outs : List (Outcome α δ)}
    (h : linkedListInit.run ops = some (l, outs)) :
    l.followNext = some (specRun [] ops).1 ∧ l.followPrev = some (specRun [] ops).1.reverse ∧
      (l.pHead = none ↔ l.pTail = none) ∧ outs = (specRun [] ops).2.map Effect.outcome ∧
      ((specRun [] ops).2.flatMap Effect.added).Perm
        ((specRun [] ops).1 ++ ((specRun [] ops).2.flatMap Effect.handed
          ++ (specRun [] ops).2.flatMap Effect.dropped)) ∧
      ∀ op, l.Allows op → (l.step op).isSome = true := by
  have hrun : (ListState.of []).run ops = some (l, outs) := h
  obtain ⟨es, rfl, hapart, hmap, houts⟩ := exists_of_run (show Apart [] from nodup_nil) hrun
  rw [map_nil] at hmap houts
  have hlen : es.length ≤ (ListState.of es).memory.length := (length_chain none none es).ge
  have hprev := follow_prev_of hlen (show Apart (es ++ []) by rwa [List.append_nil])
  rw [List.append_nil] at hprev
  refine ⟨hmap ▸ follow_next_of hlen (show Apart ([] ++ es) from hapart), hmap ▸ hprev, ?_, houts,
    perm_specRun [] ops, fun op hallows ↦ ?_⟩
  · exact firstOr_eq_none_iff.trans lastOr_eq_none_iff.symm
  · obtain ⟨es', hstep, -⟩ := matches_of hapart hallows
    exact Option.isSome_of_mem hstep

theorem linkedList_refines_middle :
    let ops : List (Op Char ℕ) := [.add (some 1) (some 'a') (some 7),
      .add (some 2) (some 'b') (some 9), .add (some 3) (some 'c') (some 8), .search false (some (· == 'b')) true, .remove true,
      .add (some 1) (some 'd') (some 7), .search true (some (· == 'c')) false]
    ∃ l outs, linkedListInit.run ops = some (l, outs) ∧
      l.followNext = some [⟨'d', some 7⟩, ⟨'c', some 8⟩] ∧
      outs.map Outcome.written =
        [none, none, none, none, some (some 'a'), none, some (some 'c')] ∧
      outs.flatMap Outcome.freed = [(9, 'b')] := by
  intro ops
  have hsome : ((linkedListInit : ListState Char ℕ).run ops).isSome = true := by decide
  obtain ⟨⟨l, outs⟩, hrun⟩ := Option.isSome_iff_exists.mp hsome
  obtain ⟨hnext, -, -, houts, -⟩ := linkedList_refines hrun
  exact ⟨l, outs, hrun, hnext.trans (by decide), by rw [houts]; decide, by rw [houts]; decide⟩

end

end MataDevice.MsgQueue
