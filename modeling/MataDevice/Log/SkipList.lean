import MataDevice.Lib.Memory

/-!
# A list with a thread for each level

`SkipList` keeps its entries in one list, in the order in which they came, and links those of each
level with iterators of that list: a vector of heads, a vector of tails, and in each node the next
one of its level.

An iterator is the address of a node, or the end of the list. The addresses come from the allocator,
which may give any that is not in use, so that the address of a node that is gone can come back. An
iterator that is not one of the list must not be dereferenced; a function that does so has no
result.

The iterators hold nothing that is not in the entries: `SkipList.of` is the list with its iterators
as the entries determine them, and each operation is one on the entries.
-/

namespace MataDevice.Log

open Memory List

variable {T : Type} {totalLevels : ℕ}

/-- The address of a node; the end of the list has none. -/
abbrev NodeIterator := Option ℕ

structure SkipNode (T : Type) (totalLevels : ℕ) where
  mLevel : Fin totalLevels
  mData : T
  mNextInLevel : NodeIterator
  deriving DecidableEq

structure SkipList (T : Type) (totalLevels : ℕ) where
  /-- the nodes with their addresses -/
  mMainList : List (ℕ × SkipNode T totalLevels)
  mHeadVec : Fin totalLevels → NodeIterator
  mTailVec : Fin totalLevels → NodeIterator

namespace SkipList

def empty : SkipList T totalLevels := ⟨[], fun _ ↦ none, fun _ ↦ none⟩

/-- What an iterator points to. -/
def deref (s : SkipList T totalLevels) (iter : NodeIterator) : Option (SkipNode T totalLevels) :=
  iter.bind fun addr ↦ s.mMainList.lookup addr

/-- `append` with a level that is in range. -/
def appendAt (s : SkipList T totalLevels) (addr : ℕ) (data : T) (level : Fin totalLevels) :
    Option (SkipList T totalLevels) :=
  let node : SkipNode T totalLevels := ⟨level, data, none⟩
  let pushed := { s with mMainList := s.mMainList ++ [(addr, node)] }
  let mTailVec := Function.update s.mTailVec level (some addr)
  match s.mHeadVec level with
  | none => some { pushed with
      mHeadVec := Function.update s.mHeadVec level (some addr)
      mTailVec := mTailVec }
  | some _ =>
    match s.mTailVec level with
    | none => none
    | some tail => (pushed.deref (some tail)).map fun _ ↦ { pushed with
        mMainList := modify tail (fun node ↦ { node with mNextInLevel := some addr }) pushed.mMainList
        mTailVec := mTailVec }

/-- `append`, with the address that the new node gets. -/
def append (s : SkipList T totalLevels) (addr : ℕ) (data : T) (level : ℤ) :
    Option (SkipList T totalLevels) :=
  if h : 0 ≤ level ∧ level < totalLevels then
    s.appendAt addr data ⟨level.toNat, by omega⟩
  else some s

/-- `pop` of a level. -/
def pop (s : SkipList T totalLevels) (level : Fin totalLevels) : Option (SkipList T totalLevels) :=
  match s.mHeadVec level with
  | none => some s
  | some head => (s.deref (some head)).map fun node ↦
      { mMainList := free head s.mMainList
        mHeadVec := Function.update s.mHeadVec level node.mNextInLevel
        mTailVec := if node.mNextInLevel = none then Function.update s.mTailVec level none
          else s.mTailVec }

def front (s : SkipList T totalLevels) (level : Fin totalLevels) : Option T :=
  (s.deref (s.mHeadVec level)).map SkipNode.mData

def flush (_s : SkipList T totalLevels) : SkipList T totalLevels := empty

/-- `dump` of everything. -/
def dump (s : SkipList T totalLevels) : List (T × Fin totalLevels) :=
  s.mMainList.map fun p ↦ (p.2.mData, p.2.mLevel)

/-- The loop of `dump` of a level. It ends within as many rounds as there are nodes, or not at
all. -/
def dumpFrom (s : SkipList T totalLevels) : ℕ → NodeIterator → Option (List (T × Fin totalLevels))
  | _, none => some []
  | 0, some _ => none
  | rounds + 1, some head => do
    let node ← s.deref (some head)
    let li ← dumpFrom s rounds node.mNextInLevel
    some ((node.mData, node.mLevel) :: li)

/-- `dump` of a level. -/
def dumpLevel (s : SkipList T totalLevels) (level : Fin totalLevels) :
    Option (List (T × Fin totalLevels)) :=
  s.dumpFrom s.mMainList.length (s.mHeadVec level)

end SkipList

/-! ## The entries -/

/-- An entry, without the iterators. -/
structure Entry (T : Type) (totalLevels : ℕ) where
  addr : ℕ
  mLevel : Fin totalLevels
  mData : T

variable {level level' : Fin totalLevels} {e : Entry T totalLevels} {es : List (Entry T totalLevels)}

/-- The entries of a level. -/
def ofLevel (level : Fin totalLevels) (es : List (Entry T totalLevels)) : List (Entry T totalLevels) :=
  es.filter fun e ↦ e.mLevel = level

def first (es : List (Entry T totalLevels)) : NodeIterator := es.head?.map Entry.addr

def last (es : List (Entry T totalLevels)) : NodeIterator := es.getLast?.map Entry.addr

/-- The nodes, each with the next one of its level. -/
def thread : List (Entry T totalLevels) → List (ℕ × SkipNode T totalLevels)
  | [] => []
  | e :: es => (e.addr, ⟨e.mLevel, e.mData, first (ofLevel e.mLevel es)⟩) :: thread es

/-- The list with the given entries. -/
def SkipList.of (es : List (Entry T totalLevels)) : SkipList T totalLevels where
  mMainList := thread es
  mHeadVec level := first (ofLevel level es)
  mTailVec level := last (ofLevel level es)

/-- No two nodes have the same address. -/
def Apart (es : List (Entry T totalLevels)) : Prop := (es.map Entry.addr).Nodup

@[simp] theorem ofLevel_nil : ofLevel level ([] : List (Entry T totalLevels)) = [] := rfl

theorem ofLevel_cons_of_eq (h : e.mLevel = level) : ofLevel level (e :: es) = e :: ofLevel level es :=
  filter_cons_of_pos (by simp [h])

theorem ofLevel_cons_of_ne (h : e.mLevel ≠ level) : ofLevel level (e :: es) = ofLevel level es :=
  filter_cons_of_neg (by simp [h])

theorem ofLevel_append (es es' : List (Entry T totalLevels)) :
    ofLevel level (es ++ es') = ofLevel level es ++ ofLevel level es' :=
  filter_append ..

theorem length_thread (es : List (Entry T totalLevels)) : (thread es).length = es.length := by
  induction es with
  | nil => rfl
  | cons e es ih => rw [thread, length_cons, ih, length_cons]

theorem map_fst_thread (es : List (Entry T totalLevels)) :
    (thread es).map Prod.fst = es.map Entry.addr := by
  induction es with
  | nil => rfl
  | cons e es ih => rw [thread, map_cons, map_cons, ih]

theorem Apart.of_cons (h : Apart (e :: es)) : Apart es := (nodup_cons.mp h).2

theorem Apart.not_mem (h : Apart (e :: es)) : e.addr ∉ es.map Entry.addr := (nodup_cons.mp h).1

theorem Apart.of_append_left {es' : List (Entry T totalLevels)} (h : Apart (es ++ es')) :
    Apart es := by
  rw [Apart, map_append] at h
  exact h.of_append_left

variable {t : Entry T totalLevels}

theorem Apart.ne_of_concat (h : Apart (es ++ [e])) (ht : t ∈ es) :
    e.addr ≠ t.addr := by
  rw [Apart, map_append, nodup_append] at h
  exact (h.2.2 _ (mem_map_of_mem ht) _ (by simp)).symm

theorem Apart.eraseP (h : Apart es) (level : Fin totalLevels) :
    Apart (es.eraseP fun e ↦ e.mLevel = level) :=
  List.Nodup.sublist (eraseP_sublist.map _) h

variable {pre post : List (Entry T totalLevels)}

/-- A node is found at its address, with the next one of its level behind it. -/
theorem lookup_thread (h : Apart (pre ++ e :: post)) :
    (thread (pre ++ e :: post)).lookup e.addr
      = some ⟨e.mLevel, e.mData, first (ofLevel e.mLevel post)⟩ := by
  induction pre with
  | nil => exact lookup_cons_self
  | cons e' pre ih =>
    have hne : e.addr ≠ e'.addr := fun heq ↦ h.not_mem (heq ▸ by simp)
    rw [cons_append, thread, lookup_cons, beq_false_of_ne hne]
    exact ih h.of_cons

theorem deref_of (hes : es = pre ++ e :: post) (h : Apart es) : (SkipList.of es).deref (some e.addr)
      = some ⟨e.mLevel, e.mData, first (ofLevel e.mLevel post)⟩ := by
  subst hes
  exact lookup_thread h

/-- The first entry of a level, and what is left without it. -/
theorem exists_of_ofLevel {rest : List (Entry T totalLevels)} (h : ofLevel level es = e :: rest) :
    ∃ pre post, es = pre ++ e :: post ∧ ofLevel level pre = [] ∧ e.mLevel = level ∧
      ofLevel level post = rest ∧ es.eraseP (fun e ↦ e.mLevel = level) = pre ++ post := by
  obtain ⟨pre, post, rfl, hpre, he, hpost⟩ := filter_eq_cons_iff.mp h
  have he : e.mLevel = level := by simpa using he
  refine ⟨pre, post, rfl, filter_eq_nil_iff.mpr hpre, he, hpost, ?_⟩
  rw [eraseP_append_right _ hpre, eraseP_cons_of_pos (by simp [he])]

/-! ## Changes of the links -/

theorem ofLevel_concat_of_ne (h : e.mLevel ≠ level) :
    ofLevel level (es ++ [e]) = ofLevel level es := by
  rw [ofLevel_append, ofLevel_cons_of_ne h, ofLevel_nil, List.append_nil]

theorem ofLevel_concat_of_eq (h : e.mLevel = level) :
    ofLevel level (es ++ [e]) = ofLevel level es ++ [e] := by
  rw [ofLevel_append, ofLevel_cons_of_eq h, ofLevel_nil]

/-- The first node of a level is found in front of a new one. -/
theorem first_ofLevel_concat (h : e.mLevel = level → ofLevel level es ≠ []) :
    first (ofLevel level (es ++ [e])) = first (ofLevel level es) := by
  by_cases he : e.mLevel = level
  · rw [ofLevel_concat_of_eq he, first, head?_append_of_ne_nil _ (h he), ← first]
  · rw [ofLevel_concat_of_ne he]

/-- The first node of its level changes no other one. -/
theorem thread_concat_of_none (h : ofLevel e.mLevel es = []) :
    thread (es ++ [e]) = thread es ++ [(e.addr, ⟨e.mLevel, e.mData, none⟩)] := by
  induction es with
  | nil => rfl
  | cons e' es ih =>
    obtain ⟨he', hes⟩ := forall_mem_cons.mp (filter_eq_nil_iff.mp h)
    have he' : e'.mLevel ≠ e.mLevel := by simpa using he'
    rw [cons_append, thread, ih (filter_eq_nil_iff.mpr hes), thread, cons_append,
      first_ofLevel_concat (fun heq ↦ absurd heq.symm he')]

/-- The next node of a level is written into the last one. -/
theorem thread_concat_of_some
    (h : Apart (pre ++ t :: post)) (ht : t.mLevel = e.mLevel) (hpost : ofLevel e.mLevel post = []) :
    thread (pre ++ t :: post ++ [e])
      = modify t.addr (fun node ↦ { node with mNextInLevel := some e.addr })
          (thread (pre ++ t :: post))
        ++ [(e.addr, ⟨e.mLevel, e.mData, none⟩)] := by
  induction pre with
  | nil =>
    have hnext : first (ofLevel t.mLevel (post ++ [e])) = some e.addr := by
      rw [ht, ofLevel_concat_of_eq rfl, hpost]
      rfl
    have hrest : t.addr ∉ (thread post).map Prod.fst := by
      rw [map_fst_thread]
      exact h.not_mem
    rw [nil_append, cons_append, thread, hnext, thread_concat_of_none hpost, thread,
      modify_cons_self, modify_of_not_mem hrest, cons_append]
  | cons e' pre ih =>
    have hne : e'.addr ≠ t.addr := fun heq ↦ h.not_mem (heq ▸ by simp)
    have hfirst : first (ofLevel e'.mLevel (pre ++ t :: post ++ [e]))
        = first (ofLevel e'.mLevel (pre ++ t :: post)) := by
      refine first_ofLevel_concat fun heq ↦ ?_
      rw [ofLevel_append, ofLevel_cons_of_eq (ht.trans heq)]
      simp
    rw [cons_append, cons_append, thread, ih h.of_cons, thread, hfirst,
      modify_cons_of_ne hne, cons_append]

/-- The last entry of a level. -/
theorem exists_of_last (h : (ofLevel level es).getLast? = some t) :
    ∃ pre post, es = pre ++ t :: post ∧ t.mLevel = level ∧ ofLevel level post = [] := by
  rw [ofLevel, ← head?_reverse, ← filter_reverse] at h
  obtain ⟨post, pre, hes, hpost, ht, -⟩ := filter_eq_cons_iff.mp (eq_cons_of_mem_head? h)
  refine ⟨pre.reverse, post.reverse, ?_, by simpa using ht, ?_⟩
  · rw [← reverse_reverse es, hes]
    simp
  · rw [ofLevel, filter_reverse, filter_eq_nil_iff.mpr hpost, reverse_nil]

theorem update_first (h : ofLevel e.mLevel es = []) :
    Function.update (fun level ↦ first (ofLevel level es)) e.mLevel (some e.addr)
      = fun level ↦ first (ofLevel level (es ++ [e])) := by
  funext level
  by_cases hlevel : level = e.mLevel
  · subst hlevel
    rw [Function.update_self, ofLevel_concat_of_eq rfl, h]
    rfl
  · rw [Function.update_of_ne hlevel, ofLevel_concat_of_ne (Ne.symm hlevel)]

theorem update_last (es : List (Entry T totalLevels)) (e : Entry T totalLevels) :
    Function.update (fun level ↦ last (ofLevel level es)) e.mLevel (some e.addr)
      = fun level ↦ last (ofLevel level (es ++ [e])) := by
  funext level
  by_cases hlevel : level = e.mLevel
  · subst hlevel
    rw [Function.update_self, ofLevel_concat_of_eq rfl, last, getLast?_concat]
    rfl
  · rw [Function.update_of_ne hlevel, ofLevel_concat_of_ne (Ne.symm hlevel)]

/-- Without the first node of a level, the others are linked as before. -/
theorem free_thread (h : Apart (pre ++ e :: post)) (hpre : ofLevel e.mLevel pre = []) :
    free e.addr (thread (pre ++ e :: post)) = thread (pre ++ post) := by
  induction pre with
  | nil => exact free_cons_self ..
  | cons e' pre ih =>
    obtain ⟨he', hrest⟩ := forall_mem_cons.mp (filter_eq_nil_iff.mp hpre)
    have he' : e.mLevel ≠ e'.mLevel := fun heq ↦ he' (by simp [heq])
    have hne : e'.addr ≠ e.addr := fun heq ↦ h.not_mem (heq ▸ by simp)
    rw [cons_append, thread, free_cons_of_ne hne,
      ih h.of_cons (filter_eq_nil_iff.mpr hrest), cons_append, thread, ofLevel_append,
      ofLevel_cons_of_ne he', ofLevel_append]

theorem ofLevel_erase (h : level ≠ e.mLevel) :
    ofLevel level (pre ++ e :: post) = ofLevel level (pre ++ post) := by
  rw [ofLevel_append, ofLevel_cons_of_ne h.symm, ofLevel_append]

theorem heads_erase (hpre : ofLevel e.mLevel pre = []) :
    Function.update (fun level ↦ first (ofLevel level (pre ++ e :: post))) e.mLevel
        (first (ofLevel e.mLevel post))
      = fun level ↦ first (ofLevel level (pre ++ post)) := by
  funext level
  by_cases hlevel : level = e.mLevel
  · rw [hlevel, Function.update_self, ofLevel_append, hpre, nil_append]
  · rw [Function.update_of_ne hlevel, ofLevel_erase hlevel]

theorem tails_erase (hpre : ofLevel e.mLevel pre = []) :
    (if first (ofLevel e.mLevel post) = none then
        Function.update (fun level ↦ last (ofLevel level (pre ++ e :: post))) e.mLevel none
      else fun level ↦ last (ofLevel level (pre ++ e :: post)))
      = fun level ↦ last (ofLevel level (pre ++ post)) := by
  funext level
  by_cases hlevel : level = e.mLevel
  · have hwith : ofLevel level (pre ++ e :: post) = e :: ofLevel level post := by
      rw [hlevel, ofLevel_append, hpre, ofLevel_cons_of_eq rfl, nil_append]
    have hwithout : ofLevel level (pre ++ post) = ofLevel level post := by
      rw [hlevel, ofLevel_append, hpre, nil_append]
    rw [hwithout, ← hlevel]
    cases hl : ofLevel level post with
    | nil =>
      rw [first, head?_nil, Option.map_none, if_pos rfl, Function.update_self]
      rfl
    | cons f rest =>
      -- the tail is not the node that goes
      rw [if_neg (by simp [first]), hwith, hl, last, last, getLast?_cons_cons]
  · split
    · rw [Function.update_of_ne hlevel, ofLevel_erase hlevel]
    · exact congrArg last (ofLevel_erase hlevel)

theorem ofLevel_eraseP (es : List (Entry T totalLevels)) (level level' : Fin totalLevels) :
    ofLevel level' (es.eraseP fun e ↦ e.mLevel = level)
      = if level' = level then (ofLevel level es).tail else ofLevel level' es := by
  cases hl : ofLevel level es with
  | nil =>
    rw [eraseP_of_forall_not (filter_eq_nil_iff.mp hl)]
    split
    · next hlevel => rw [hlevel, hl, tail_nil]
    · rfl
  | cons e rest =>
    obtain ⟨pre, post, rfl, hpre, rfl, hpost, herase⟩ := exists_of_ofLevel hl
    rw [herase]
    split
    · next hlevel => rw [hlevel, ofLevel_append, hpre, hpost, nil_append, tail_cons]
    · next hlevel => rw [ofLevel_erase hlevel]

/-! ## The operations -/

namespace SkipList

/-- `front` reads the first entry of the level, and must not be called if there is none. -/
theorem front_of (h : Apart es) (level : Fin totalLevels) :
    (of es).front level = (ofLevel level es).head?.map Entry.mData := by
  cases hl : ofLevel level es with
  | nil => simp [front, of, hl, first, deref]
  | cons e rest =>
    obtain ⟨pre, post, hes, -⟩ := exists_of_ofLevel hl
    have hhead : (of es).mHeadVec level = some e.addr := by simp [of, hl, first]
    rw [front, hhead, deref_of hes h]
    rfl

theorem dump_of (es : List (Entry T totalLevels)) :
    (of es).dump = es.map fun e ↦ (e.mData, e.mLevel) := by
  rw [dump, of]
  induction es with
  | nil => rfl
  | cons e es ih => rw [thread, map_cons, map_cons, ih]

/-- The loop of `dump` follows the thread of a level to its end. -/
theorem dumpFrom_of (h : Apart es) (pre : List (Entry T totalLevels))
    {post li : List (Entry T totalLevels)} {rounds : ℕ} (hes : es = pre ++ post)
    (hli : ofLevel level post = li) (hr : li.length ≤ rounds) :
    (of es).dumpFrom rounds (first (ofLevel level post))
      = some (li.map fun e ↦ (e.mData, e.mLevel)) := by
  induction li generalizing pre post rounds with
  | nil =>
    rw [hli]
    cases rounds <;> rfl
  | cons e rest ih =>
    obtain ⟨pre', post', rfl, -, he, hrest, -⟩ := exists_of_ofLevel hli
    obtain ⟨rounds, rfl⟩ := Nat.exists_eq_add_one_of_ne_zero (Nat.ne_zero_of_lt hr)
    rw [← append_assoc] at hes
    have hnext : (of es).dumpFrom rounds (first (ofLevel e.mLevel post'))
        = some (rest.map fun e ↦ (e.mData, e.mLevel)) := by
      rw [he]
      refine ih (pre ++ pre' ++ [e]) ?_ hrest (Nat.le_of_lt_succ hr)
      rw [hes, append_assoc _ [e], singleton_append]
    have hfirst : first (ofLevel level (pre' ++ e :: post')) = some e.addr := by
      rw [hli]
      rfl
    rw [hfirst, dumpFrom, deref_of hes h]
    simp only [Option.bind_eq_bind, Option.bind_some, hnext, map_cons]

/-- `dump` of a level gives the entries of the level. -/
theorem dumpLevel_of (h : Apart es) (level : Fin totalLevels) :
    (of es).dumpLevel level = some ((ofLevel level es).map fun e ↦ (e.mData, e.mLevel)) := by
  refine dumpFrom_of h [] (nil_append es).symm rfl ?_
  rw [of, length_thread]
  exact length_filter_le ..

/-- `append` adds an entry. -/
theorem appendAt_of (h : Apart (es ++ [e])) :
    (of es).appendAt e.addr e.mData e.mLevel = some (of (es ++ [e])) := by
  cases hl : (ofLevel e.mLevel es).getLast? with
  | none =>
    have hnone : ofLevel e.mLevel es = [] := getLast?_eq_none_iff.mp hl
    have hhead : (of es).mHeadVec e.mLevel = none := by simp [of, hnone, first]
    rw [appendAt, hhead]
    dsimp only [of]
    rw [update_first hnone, update_last, thread_concat_of_none hnone]
  | some t =>
    have hne : ofLevel e.mLevel es ≠ [] := by
      rintro hnone
      rw [hnone] at hl
      cases hl
    obtain ⟨f, rest, hf⟩ := exists_cons_of_ne_nil hne
    have hhead : (of es).mHeadVec e.mLevel = some f.addr := by simp [of, hf, first]
    have htail : (of es).mTailVec e.mLevel = some t.addr := by simp [of, hl, last]
    have hheads : (of es).mHeadVec = fun level ↦ first (ofLevel level (es ++ [e])) := by
      funext level
      exact (first_ofLevel_concat fun heq ↦ heq ▸ hne).symm
    obtain ⟨pre, post, rfl, ht, hpost⟩ := exists_of_last hl
    have hapart : Apart (pre ++ t :: post) := h.of_append_left
    have haddr : e.addr ≠ t.addr := h.ne_of_concat (by simp)
    have hnode := deref_of rfl hapart
    rw [deref, Option.bind_some] at hnode
    rw [appendAt, hhead, htail]
    dsimp only
    rw [deref, Option.bind_some, lookup_append, hnode, Option.some_or, Option.map_some,
      hheads]
    dsimp only [of]
    rw [update_last, modify_append, thread_concat_of_some hapart ht hpost, modify_cons_of_ne haddr]
    rfl

theorem append_of (h : Apart (es ++ [e])) :
    (of es).append e.addr e.mData (e.mLevel : ℕ) = some (of (es ++ [e])) := by
  rw [append, dif_pos ⟨by omega, by omega⟩]
  exact appendAt_of h

/-- `pop` removes the first entry of the level, if there is one. -/
theorem pop_of (h : Apart es) (level : Fin totalLevels) :
    (of es).pop level = some (of (es.eraseP fun e ↦ e.mLevel = level)) := by
  cases hl : ofLevel level es with
  | nil =>
    have hhead : (of es).mHeadVec level = none := by simp [of, hl, first]
    rw [pop, hhead, eraseP_of_forall_not (filter_eq_nil_iff.mp hl)]
  | cons e rest =>
    have hhead : (of es).mHeadVec level = some e.addr := by simp [of, hl, first]
    obtain ⟨pre, post, rfl, hpre, rfl, hpost, herase⟩ := exists_of_ofLevel hl
    rw [pop, hhead]
    dsimp only
    rw [deref_of rfl h, Option.map_some, herase]
    dsimp only [of]
    rw [free_thread h hpre, heads_erase hpre, tails_erase hpre]

end SkipList

end MataDevice.Log
