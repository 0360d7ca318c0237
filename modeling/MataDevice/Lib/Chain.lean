import MataDevice.Lib.Memory

/-!
# Doubly linked lists in memory

A list of values with addresses determines the cells of the doubly linked list that holds them:
`chain` links each cell to its neighbours, and the two ends to what stands outside. An operation on
pointers is then an equation between chains. The lemmas give what is read at an address, what comes
of the links of an end being set, and what is left when a cell is freed.
-/

namespace MataDevice.Chain

open Memory List

variable {α : Type} {addr : ℕ} {x : α} {es es' : List (ℕ × α)} {prev next : Option ℕ}

/-- A cell of a doubly linked list. -/
structure Cell (α : Type) where
  next : Option ℕ
  prev : Option ℕ
  data : α
  deriving DecidableEq

/-- The address of the first value, or of what stands behind them all. -/
def firstOr (es : List (ℕ × α)) (next : Option ℕ) : Option ℕ := (es.head?.map Prod.fst).or next

/-- The address of the last value, or of what stands before them all. -/
def lastOr (es : List (ℕ × α)) (prev : Option ℕ) : Option ℕ := (es.getLast?.map Prod.fst).or prev

/-- The cells of the values, between `prev` and `next`. -/
def chain : Option ℕ → List (ℕ × α) → Option ℕ → List (ℕ × Cell α)
  | _, [], _ => []
  | prev, (addr, x) :: es, next =>
    (addr, ⟨firstOr es next, prev, x⟩) :: chain (some addr) es next

@[simp] theorem firstOr_nil : firstOr ([] : List (ℕ × α)) next = next := rfl

@[simp] theorem firstOr_cons : firstOr ((addr, x) :: es) next = some addr := rfl

@[simp] theorem lastOr_nil : lastOr ([] : List (ℕ × α)) prev = prev := rfl

theorem firstOr_append : firstOr (es ++ es') next = firstOr es (firstOr es' next) := by
  cases es with
  | nil => rfl
  | cons p es => rfl

theorem lastOr_concat : lastOr (es ++ [(addr, x)]) prev = some addr := by
  rw [lastOr, getLast?_concat]
  rfl

theorem lastOr_cons : lastOr ((addr, x) :: es) prev = lastOr es (some addr) := by
  cases es using List.reverseRecOn with
  | nil => rfl
  | append_singleton es p =>
    obtain ⟨addr', x'⟩ := p
    rw [← cons_append, lastOr_concat, lastOr_concat]

theorem lastOr_append : lastOr (es ++ es') prev = lastOr es' (lastOr es prev) := by
  cases es' using List.reverseRecOn with
  | nil => rw [List.append_nil, lastOr_nil]
  | append_singleton es' p => rw [← append_assoc, lastOr_concat, lastOr_concat]

theorem firstOr_eq_none_iff : firstOr es none = none ↔ es = [] := by
  cases es with
  | nil => simp
  | cons p es => simp [firstOr]

theorem lastOr_eq_none_iff : lastOr es none = none ↔ es = [] := by
  cases es using List.reverseRecOn with
  | nil => simp
  | append_singleton es p =>
    rw [lastOr_concat]
    simp

theorem map_fst_chain (prev next : Option ℕ) (es : List (ℕ × α)) :
    (chain prev es next).map Prod.fst = es.map Prod.fst := by
  induction es generalizing prev with
  | nil => rfl
  | cons p es ih => rw [chain, map_cons, ih, map_cons]

theorem length_chain (prev next : Option ℕ) (es : List (ℕ × α)) :
    (chain prev es next).length = es.length := by
  rw [← length_map Prod.fst, map_fst_chain, length_map]

theorem chain_append (prev next : Option ℕ) (es es' : List (ℕ × α)) :
    chain prev (es ++ es') next
      = chain prev es (firstOr es' next) ++ chain (lastOr es prev) es' next := by
  induction es generalizing prev with
  | nil => rfl
  | cons p es ih =>
    rw [cons_append, chain, ih, chain, firstOr_append, lastOr_cons, cons_append]

/-- What a cell knows of its neighbours. -/
theorem lookup_chain (h : addr ∉ es.map Prod.fst) :
    (chain prev (es ++ (addr, x) :: es') next).lookup addr
      = some ⟨firstOr es' next, lastOr es prev, x⟩ := by
  rw [chain_append, lookup_append_of_not_mem (by rwa [map_fst_chain]), chain, lookup_cons_self]

/-- The first cell gets another one before it. -/
theorem modify_prev (h : addr ∉ es.map Prod.fst) (prev' : Option ℕ) :
    modify addr (fun cell ↦ { cell with prev := prev' }) (chain prev ((addr, x) :: es) next)
      = chain prev' ((addr, x) :: es) next := by
  rw [chain, modify_cons_self, modify_of_not_mem (by rwa [map_fst_chain]), chain]

/-- The last cell gets another one behind it. -/
theorem modify_next (h : addr ∉ es.map Prod.fst) (next' : Option ℕ) :
    modify addr (fun cell ↦ { cell with next := next' }) (chain prev (es ++ [(addr, x)]) next)
      = chain prev (es ++ [(addr, x)]) next' := by
  rw [chain_append, modify_append, modify_of_not_mem (by rwa [map_fst_chain]), chain,
    modify_cons_self, chain_append]
  rfl

end MataDevice.Chain
