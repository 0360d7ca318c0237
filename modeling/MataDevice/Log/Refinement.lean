import MataDevice.Log.SkipList

/-!
# The skip list as a list with levels

Through any calls, the skip list is a list of the data with their levels: `append` adds at the end,
`pop` of a level takes the first of that level, `pop` without a level the first of all, and `flush`
takes everything. The threads of the levels are at every time those of the list. A level that is out
of range is passed over by `append`; the other functions must not be called with one, and `pop`
without a level not on an empty list.
-/

namespace MataDevice.Log

open List

variable {T : Type} {totalLevels : ℕ}

/-- A call, where a new node gets the address `addr` -/
inductive Op (T : Type)
  | append (addr : ℕ) (data : T) (level : ℤ)
  | popLevel (level : ℤ)
  | pop
  | flush

theorem toNat_lt {level : ℤ} (h : 0 ≤ level ∧ level < totalLevels) : level.toNat < totalLevels := by
  omega

/-- `level` as an index of the vectors -/
def inRange (totalLevels : ℕ) (level : ℤ) : Option (Fin totalLevels) :=
  if h : 0 ≤ level ∧ level < totalLevels then some ⟨level.toNat, toNat_lt h⟩ else none

namespace SkipList

/-- `pop` without a level, which reads the first node -/
def popFront (s : SkipList T totalLevels) : Option (SkipList T totalLevels) :=
  match s.mMainList with
  | [] => none
  | (_, node) :: _ => s.pop node.mLevel

/-- The allocator does not give an address that is in use. -/
def step (s : SkipList T totalLevels) : Op T → Option (SkipList T totalLevels)
  | .append addr data level =>
    if addr ∈ s.mMainList.map Prod.fst then none else s.append addr data level
  | .popLevel level =>
    match inRange totalLevels level with
    | some level => s.pop level
    | none => none
  | .pop => s.popFront
  | .flush => some s.flush

/-- The call may be made. -/
def Allows (s : SkipList T totalLevels) : Op T → Prop
  | .append addr _ _ => addr ∉ s.mMainList.map Prod.fst
  | .popLevel level => 0 ≤ level ∧ level < totalLevels
  | .pop => s.mMainList ≠ []
  | .flush => True

/-- The addresses of the nodes of a level -/
def addrsOf (level : Fin totalLevels) (nodes : List (ℕ × SkipNode T totalLevels)) : List ℕ :=
  (nodes.filter fun p ↦ p.2.mLevel = level).map Prod.fst

/-- The heads and the tails are the first and the last nodes of their levels, and each node is linked
to the next one of its level. -/
structure IsLinked (s : SkipList T totalLevels) : Prop where
  apart : (s.mMainList.map Prod.fst).Nodup
  heads : ∀ level, s.mHeadVec level = (addrsOf level s.mMainList).head?
  tails : ∀ level, s.mTailVec level = (addrsOf level s.mMainList).getLast?
  next : ∀ pre addr node post, s.mMainList = pre ++ (addr, node) :: post →
    node.mNextInLevel = (addrsOf node.mLevel post).head?

end SkipList

/-! ## The list with levels -/

/-- What a call does to the data with their levels -/
def specStep (l : List (T × Fin totalLevels)) : Op T → List (T × Fin totalLevels)
  | .append _ data level =>
    match inRange totalLevels level with
    | some level => l ++ [(data, level)]
    | none => l
  | .popLevel level => l.eraseP fun p ↦ inRange totalLevels level = some p.2
  | .pop => l.tail
  | .flush => []

/-- What has been appended with a level that is in range, and has not been popped -/
def contents (totalLevels : ℕ) (ops : List (Op T)) : List (T × Fin totalLevels) :=
  ops.foldl specStep []

section

variable {es : List (Entry T totalLevels)} {s s' : SkipList T totalLevels} {op : Op T}

def entryPairs (es : List (Entry T totalLevels)) : List (T × Fin totalLevels) :=
  es.map fun e ↦ (e.mData, e.mLevel)

theorem eq_of_inRange {level : ℤ} {i : Fin totalLevels} (h : inRange totalLevels level = some i) :
    level = (i : ℕ) := by
  rw [inRange] at h
  split at h
  · obtain rfl := Option.some.inj h
    simp only [Int.toNat_of_nonneg, *]
  · cases h

theorem append_of_inRange_none {level : ℤ} (h : inRange totalLevels level = none) (addr : ℕ)
    (data : T) : s.append addr data level = some s := by
  rw [SkipList.append]
  rw [inRange] at h
  split at h
  · cases h
  · next hnot => rw [dif_neg hnot]

theorem apart_concat {addr : ℕ} {e : Entry T totalLevels} (h : Apart es)
    (haddr : addr ∉ (thread es).map Prod.fst) (he : e.addr = addr) : Apart (es ++ [e]) := by
  rw [map_fst_thread, ← he] at haddr
  rw [Apart, map_append, map_singleton, nodup_append]
  exact ⟨h, nodup_singleton _, fun a ha b hb heq ↦
    haddr (mem_singleton.mp hb ▸ heq ▸ ha)⟩

/-- A call on the nodes does to the data what it is to do. -/
theorem step_of (h : Apart es) (hstep : (SkipList.of es).step op = some s') :
    ∃ es', s' = .of es' ∧ Apart es' ∧ entryPairs es' = specStep (entryPairs es) op := by
  cases op with
  | append addr data level =>
    rw [SkipList.step] at hstep
    split at hstep
    · cases hstep
    · next haddr =>
      cases hlevel : inRange totalLevels level with
      | none =>
        rw [append_of_inRange_none hlevel] at hstep
        obtain rfl := Option.some.inj hstep
        exact ⟨es, rfl, h, by rw [specStep, hlevel]⟩
      | some i =>
        have hapart : Apart (es ++ [⟨addr, i, data⟩]) := apart_concat h haddr rfl
        rw [eq_of_inRange hlevel] at hstep
        obtain rfl := Option.some.inj ((SkipList.append_of hapart).symm.trans hstep)
        refine ⟨_, rfl, hapart, ?_⟩
        rw [specStep, hlevel, entryPairs, map_append]
        rfl
  | popLevel level =>
    rw [SkipList.step] at hstep
    cases hlevel : inRange totalLevels level with
    | none =>
      rw [hlevel] at hstep
      cases hstep
    | some i =>
      rw [hlevel] at hstep
      obtain rfl := Option.some.inj ((SkipList.pop_of h i).symm.trans hstep)
      refine ⟨_, rfl, h.eraseP i, ?_⟩
      have hsame : ∀ e : Entry T totalLevels, decide (e.mLevel = i) =
          decide (inRange totalLevels level = some e.mLevel) := fun e ↦ by
        rw [hlevel]
        exact decide_eq_decide.mpr ⟨fun h ↦ h ▸ rfl, fun h ↦ (Option.some.inj h).symm⟩
      rw [specStep, entryPairs, entryPairs, eraseP_map]
      exact congrArg (fun p ↦ (es.eraseP p).map _) (funext hsame)
  | pop =>
    cases es with
    | nil => cases hstep
    | cons e es =>
      have hpop : (SkipList.of (e :: es)).pop e.mLevel = some s' := hstep
      have hrest : (e :: es).eraseP (fun e' ↦ e'.mLevel = e.mLevel) = es :=
        eraseP_cons_of_pos (by simp)
      rw [SkipList.pop_of h, hrest] at hpop
      obtain rfl := Option.some.inj hpop
      exact ⟨es, rfl, h.of_cons, rfl⟩
  | flush =>
    obtain rfl := Option.some.inj hstep
    exact ⟨[], rfl, nodup_nil, rfl⟩

/-- A call that may be made goes through. -/
theorem isSome_step_of (h : Apart es) (hallows : (SkipList.of es).Allows op) :
    ((SkipList.of es).step op).isSome = true := by
  cases op with
  | append addr data level =>
    have haddr : addr ∉ (SkipList.of es).mMainList.map Prod.fst := hallows
    rw [SkipList.step, if_neg haddr]
    cases hlevel : inRange totalLevels level with
    | none =>
      rw [append_of_inRange_none hlevel]
      rfl
    | some i =>
      have hapart : Apart (es ++ [⟨addr, i, data⟩]) := apart_concat h haddr rfl
      rw [eq_of_inRange hlevel, SkipList.append_of hapart]
      rfl
  | popLevel level =>
    have hlevel : 0 ≤ level ∧ level < totalLevels := hallows
    rw [SkipList.step, inRange, dif_pos hlevel]
    dsimp only
    rw [SkipList.pop_of h]
    rfl
  | pop =>
    cases es with
    | nil => exact absurd rfl hallows
    | cons e es =>
      have hpop : (SkipList.of (e :: es)).step .pop = (SkipList.of (e :: es)).pop e.mLevel := rfl
      rw [hpop, SkipList.pop_of h]
      rfl
  | flush => rfl

/-- What a run of calls leaves -/
theorem exists_of_run {ops : List (Op T)}
    (hrun : ops.foldlM SkipList.step (SkipList.of es) = some s) (h : Apart es) :
    ∃ es', s = .of es' ∧ Apart es' ∧ entryPairs es' = ops.foldl specStep (entryPairs es) := by
  induction ops generalizing es with
  | nil =>
    obtain rfl := Option.some.inj hrun
    exact ⟨es, rfl, h, rfl⟩
  | cons op ops ih =>
    rw [foldlM_cons] at hrun
    obtain ⟨s₁, hstep, hrest⟩ := Option.bind_eq_some_iff.mp hrun
    obtain ⟨es₁, rfl, h₁, hpairs⟩ := step_of h hstep
    obtain ⟨es', hs, h', hpairs'⟩ := ih hrest h₁
    exact ⟨es', hs, h', by rw [hpairs', hpairs, foldl_cons]⟩

/-! ## The threads -/

theorem addrsOf_thread (level : Fin totalLevels) (es : List (Entry T totalLevels)) :
    SkipList.addrsOf level (thread es) = (ofLevel level es).map Entry.addr := by
  induction es with
  | nil => rfl
  | cons e es ih =>
    by_cases he : e.mLevel = level
    · rw [thread, SkipList.addrsOf, filter_cons_of_pos (by simpa using he), map_cons,
        ← SkipList.addrsOf, ih, ofLevel_cons_of_eq he, map_cons]
    · rw [thread, SkipList.addrsOf, filter_cons_of_neg (by simpa using he),
        ← SkipList.addrsOf, ih, ofLevel_cons_of_ne he]

theorem next_of_thread {pre post : List (ℕ × SkipNode T totalLevels)} {addr : ℕ}
    {node : SkipNode T totalLevels} (h : thread es = pre ++ (addr, node) :: post) :
    node.mNextInLevel = (SkipList.addrsOf node.mLevel post).head? := by
  induction es generalizing pre with
  | nil => simp [thread] at h
  | cons e es ih =>
    cases pre with
    | nil =>
      obtain ⟨hnode, rfl⟩ := List.cons.inj h
      obtain ⟨-, rfl⟩ := Prod.mk.inj hnode
      rw [addrsOf_thread, head?_map]
      rfl
    | cons p pre => exact ih (List.cons.inj h).2

theorem isLinked_of (h : Apart es) : (SkipList.of es).IsLinked where
  apart := by
    rw [SkipList.of, map_fst_thread]
    exact h
  heads level := by
    dsimp only [SkipList.of]
    rw [addrsOf_thread, head?_map, first]
  tails level := by
    dsimp only [SkipList.of]
    rw [addrsOf_thread, getLast?_map, last]
  next _ _ _ _ hnodes := next_of_thread hnodes

/-- **The skip list is a list with levels.** After any calls `dump` gives what has been appended with
a level in range and has not been popped, in order, and `dump` of a level gives what of it is of that
level; the threads link the nodes of the levels in order, and the calls that may be made next go
through. -/
theorem skipList_refines {ops : List (Op T)}
    (h : ops.foldlM SkipList.step (SkipList.empty : SkipList T totalLevels) = some s) :
    s.dump = contents totalLevels ops ∧
      (∀ level, s.dumpLevel level = some ((contents totalLevels ops).filter fun p ↦ p.2 = level)) ∧
      s.IsLinked ∧ ∀ op, s.Allows op → (s.step op).isSome = true := by
  have hrun : ops.foldlM SkipList.step (SkipList.of []) = some s := h
  obtain ⟨es, rfl, hapart, hpairs⟩ := exists_of_run hrun nodup_nil
  have hcontents : entryPairs es = contents totalLevels ops := hpairs
  rw [← hcontents]
  refine ⟨SkipList.dump_of es, fun level ↦ ?_, isLinked_of hapart, fun op ↦ isSome_step_of hapart⟩
  rw [SkipList.dumpLevel_of hapart, entryPairs, filter_map]
  rfl

theorem skipList_refines_reusing :
    let ops := [Op.append 1 'a' 0, .append 2 'b' 1, .append 3 'c' 0, .append 4 'd' 7, .pop,
      .append 1 'e' 1, .popLevel 1]
    ∃ s : SkipList Char 2, ops.foldlM SkipList.step SkipList.empty = some s ∧
      s.dump = [('c', 0), ('e', 1)] ∧ s.IsLinked := by
  intro ops
  have hsome : (ops.foldlM SkipList.step (SkipList.empty : SkipList Char 2)).isSome = true := by
    decide
  obtain ⟨s, hs⟩ := Option.isSome_iff_exists.mp hsome
  obtain ⟨hdump, -, hlinked, -⟩ := skipList_refines hs
  exact ⟨s, hs, hdump.trans (by decide), hlinked⟩

end

end MataDevice.Log
