import Mathlib.Data.List.AList

/-!
# Maps to sets

`LocUnorderedSetMap` is a map whose values are sets, with operations that work on many keys at once
and report the keys and values that came or went. Here each operation is the loop of the source, and
has one lemma that says what it does to the relation `Holds` between the keys and their values, and
which keys and values it reports.

The order in which an `unordered_set` is walked is not specified. Sets are lists here, of which only
the membership matters. `trimOrRemove` reads the key of an entry after it has erased the entry; what
it finds there is `readErased` of the key.
-/

namespace MataDevice.Observer

open List

/-! ## Sets -/

/-- `unordered_set`. -/
abbrev UnorderedSet (T : Type) := List T

variable {T KEY VAL : Type} [DecidableEq T] [DecidableEq KEY]

namespace UnorderedSet

/-- `unordered_set::erase`. -/
def erase (s : UnorderedSet T) (val : T) : UnorderedSet T := s.filter (· ≠ val)

/-- `insert` of a range. -/
def insertAll (s newVals : UnorderedSet T) : UnorderedSet T :=
  newVals.foldl (fun s val ↦ List.insert val s) s

@[simp] theorem mem_erase {s : UnorderedSet T} {x val : T} : x ∈ s.erase val ↔ x ∈ s ∧ x ≠ val := by
  simp [erase]

@[simp] theorem mem_insertAll {s newVals : UnorderedSet T} {x : T} :
    x ∈ s.insertAll newVals ↔ x ∈ s ∨ x ∈ newVals := by
  rw [insertAll]
  induction newVals generalizing s with
  | nil => simp
  | cons val newVals ih =>
    rw [foldl_cons, ih, mem_insert_iff, mem_cons]
    tauto

theorem nodup_insertAll {s : UnorderedSet T} (h : s.Nodup) (newVals : UnorderedSet T) :
    (s.insertAll newVals).Nodup := by
  rw [insertAll]
  induction newVals generalizing s with
  | nil => exact h
  | cons val newVals ih => exact ih (h.insert)

end UnorderedSet

/-- One round of `trimSet`, on `fromSet` and `goneVals`. -/
def trimVal : UnorderedSet T × UnorderedSet T → T → UnorderedSet T × UnorderedSet T
  | (fromSet, goneVals), val =>
    if val ∈ fromSet then (fromSet.erase val, List.insert val goneVals) else (fromSet, goneVals)

/-- `trimSet`: what is left of `fromSet`, and `goneVals` with what went. -/
def trimSet (fromSet rVals goneVals : UnorderedSet T) : UnorderedSet T × UnorderedSet T :=
  rVals.foldl trimVal (fromSet, goneVals)

theorem mem_trimSet {fromSet rVals goneVals : UnorderedSet T} {x : T} :
    (x ∈ (trimSet fromSet rVals goneVals).1 ↔ x ∈ fromSet ∧ x ∉ rVals) ∧
      (x ∈ (trimSet fromSet rVals goneVals).2 ↔ x ∈ goneVals ∨ x ∈ fromSet ∧ x ∈ rVals) := by
  rw [trimSet]
  induction rVals generalizing fromSet goneVals with
  | nil => simp
  | cons val rVals ih =>
    rw [foldl_cons, trimVal]
    split
    · next hval =>
      rw [ih.1, ih.2]
      simp only [UnorderedSet.mem_erase, mem_insert_iff, mem_cons]
      by_cases hx : x = val
      · simp [hx, hval]
      · simp [hx]
    · next hval =>
      rw [ih.1, ih.2]
      simp only [mem_cons]
      by_cases hx : x = val
      · simp [hx, hval]
      · simp [hx]

theorem nodup_trimSet {fromSet : UnorderedSet T} (h : fromSet.Nodup)
    (rVals goneVals : UnorderedSet T) : (trimSet fromSet rVals goneVals).1.Nodup := by
  rw [trimSet]
  induction rVals generalizing fromSet goneVals with
  | nil => exact h
  | cons val rVals ih =>
    rw [foldl_cons, trimVal]
    split
    · exact ih (h.filter _) _
    · exact ih h _

/-- One round of `removeAndReturnInterset`, on the two sets and what they have in common. -/
def removeCommon : UnorderedSet T × UnorderedSet T × UnorderedSet T → T →
    UnorderedSet T × UnorderedSet T × UnorderedSet T
  | (s1, s2, common), b =>
    if b ∈ s1 then (s1.erase b, s2.erase b, List.insert b common) else (s1, s2, common)

/-- `removeAndReturnInterset`: what is left of the two sets, and what they had in common. The loop
goes on from an element that it has erased; this is taken to lead to the next one. -/
def removeAndReturnInterset (s1 s2 : UnorderedSet T) :
    UnorderedSet T × UnorderedSet T × UnorderedSet T :=
  s2.foldl removeCommon (s1, s2, [])

theorem mem_foldl_removeCommon {bs : UnorderedSet T}
    {r : UnorderedSet T × UnorderedSet T × UnorderedSet T} {x : T} :
    (x ∈ (bs.foldl removeCommon r).2.1 ↔ x ∈ r.2.1 ∧ ¬(x ∈ bs ∧ x ∈ r.1)) ∧
      (x ∈ (bs.foldl removeCommon r).2.2 ↔ x ∈ r.2.2 ∨ x ∈ bs ∧ x ∈ r.1) := by
  induction bs generalizing r with
  | nil => simp
  | cons b bs ih =>
    rw [foldl_cons, ih.1, ih.2, removeCommon]
    split
    · next hb =>
      simp only [UnorderedSet.mem_erase, mem_insert_iff, mem_cons]
      by_cases hx : x = b
      · simp [hx, hb]
      · simp [hx]
    · next hb =>
      simp only [mem_cons]
      by_cases hx : x = b
      · simp [hx, hb]
      · simp [hx]

theorem mem_removeAndReturnInterset {s1 s2 : UnorderedSet T} {x : T} :
    (x ∈ (removeAndReturnInterset s1 s2).2.1 ↔ x ∈ s2 ∧ x ∉ s1) ∧
      (x ∈ (removeAndReturnInterset s1 s2).2.2 ↔ x ∈ s1 ∧ x ∈ s2) := by
  rw [removeAndReturnInterset, mem_foldl_removeCommon.1, mem_foldl_removeCommon.2]
  simp only [not_mem_nil, false_or]
  tauto

/-! ## Maps -/

/-- `LocUnorderedSetMap`. -/
structure LocUnorderedSetMap (KEY VAL : Type) where
  mMap : AList fun _ : KEY ↦ UnorderedSet VAL

namespace LocUnorderedSetMap

variable (m : LocUnorderedSetMap KEY VAL)

def empty : Bool := m.mMap.keys.isEmpty

/-- The set of a key, or the null pointer. -/
def getValSetPtr (key : KEY) : Option (UnorderedSet VAL) := m.mMap.lookup key

def getValSet (key : KEY) : UnorderedSet VAL := (m.mMap.lookup key).getD []

def getKeys : UnorderedSet KEY := m.mMap.keys

def remove (key : KEY) : LocUnorderedSetMap KEY VAL := ⟨m.mMap.erase key⟩

/-! ### Keys and values -/

variable {m} {key k : KEY} {v : VAL} {vals newVals rVals : UnorderedSet VAL}
  {keys : UnorderedSet KEY}

/-- The entry of `key` has `val` in it. -/
def Holds (m : LocUnorderedSetMap KEY VAL) (key : KEY) (val : VAL) : Prop := val ∈ m.getValSet key

/-- No entry is an empty set. -/
def Clean (m : LocUnorderedSetMap KEY VAL) : Prop :=
  ∀ key vals, m.mMap.lookup key = some vals → vals ≠ []

/-- Every value of `key` is to go. -/
def Emptied (m : LocUnorderedSetMap KEY VAL) (rVals : UnorderedSet VAL) (key : KEY) : Prop :=
  (∃ v, m.Holds key v) ∧ ∀ v, m.Holds key v → v ∈ rVals

theorem Clean.mem_getKeys (h : m.Clean) : key ∈ m.getKeys ↔ ∃ v, m.Holds key v := by
  rw [getKeys, ← AList.mem_keys, ← AList.lookup_isSome]
  simp only [Holds, getValSet]
  cases hl : m.mMap.lookup key with
  | none => simp
  | some vals => simpa using exists_mem_of_ne_nil vals (h key vals hl)

theorem holds_insert : Holds ⟨m.mMap.insert key vals⟩ k v ↔
    if k = key then v ∈ vals else m.Holds k v := by
  simp only [Holds, getValSet]
  split
  · next heq =>
    rw [heq, AList.lookup_insert]
    rfl
  · next hne => rw [AList.lookup_insert_ne hne]

theorem holds_remove : (m.remove key).Holds k v ↔ k ≠ key ∧ m.Holds k v := by
  simp only [Holds, getValSet, remove]
  by_cases heq : k = key
  · rw [heq, AList.lookup_erase]
    simp
  · rw [AList.lookup_erase_ne heq]
    simp [heq]

theorem Clean.insert (h : m.Clean) (hvals : vals ≠ []) : Clean ⟨m.mMap.insert key vals⟩ := by
  intro k vals' hl
  by_cases heq : k = key
  · rw [heq, AList.lookup_insert] at hl
    exact Option.some_inj.mp hl ▸ hvals
  · rw [AList.lookup_insert_ne heq] at hl
    exact h k vals' hl

theorem Clean.remove (h : m.Clean) : (m.remove key).Clean := by
  intro k vals hl
  rw [LocUnorderedSetMap.remove] at hl
  by_cases heq : k = key
  · rw [heq, AList.lookup_erase] at hl
    cases hl
  · rw [AList.lookup_erase_ne heq] at hl
    exact h k vals hl

/-- What an entry that is looked up has in it. -/
theorem holds_of_lookup (h : m.mMap.lookup key = some vals) : m.Holds key v ↔ v ∈ vals := by
  rw [Holds, getValSet, h]
  rfl

theorem not_holds_of_lookup (h : m.mMap.lookup key = none) : ¬m.Holds key v := by
  rw [Holds, getValSet, h]
  exact not_mem_nil

/-- No entry has a value twice. -/
def Distinct (m : LocUnorderedSetMap KEY VAL) : Prop := ∀ key, (m.getValSet key).Nodup

namespace Distinct

theorem insert (h : m.Distinct) (hvals : vals.Nodup) : Distinct ⟨m.mMap.insert key vals⟩ := by
  intro k
  rw [getValSet]
  by_cases heq : k = key
  · rw [heq, AList.lookup_insert]
    exact hvals
  · rw [AList.lookup_insert_ne heq]
    exact h k

theorem remove (h : m.Distinct) : (m.remove key).Distinct := by
  intro k
  rw [getValSet, LocUnorderedSetMap.remove]
  by_cases heq : k = key
  · rw [heq, AList.lookup_erase]
    exact nodup_nil
  · rw [AList.lookup_erase_ne heq]
    exact h k

theorem of_lookup (h : m.Distinct) (hl : m.mMap.lookup key = some vals) : vals.Nodup := by
  have hkey := h key
  rwa [getValSet, hl] at hkey

end Distinct

/-! ### The operations -/

section Operations

variable [DecidableEq VAL] (m)

/-- `add` with one key, and whether there is a new entry. -/
def addKey (key : KEY) (newVals : UnorderedSet VAL) : LocUnorderedSetMap KEY VAL × Bool :=
  if newVals ≠ [] then
    match m.mMap.lookup key with
    | some vals => (⟨m.mMap.insert key (vals.insertAll newVals)⟩, false)
    | none => (⟨m.mMap.insert key newVals⟩, true)
  else (m, false)

/-- One round of `add`, on the map and `newKeys`. -/
def addNext (newVals : UnorderedSet VAL) :
    LocUnorderedSetMap KEY VAL × UnorderedSet KEY → KEY →
      LocUnorderedSetMap KEY VAL × UnorderedSet KEY
  | (m, newKeys), key =>
    let (m, newEntryAdded) := m.addKey key newVals
    (m, if newEntryAdded then List.insert key newKeys else newKeys)

/-- `add`: the map and the keys that are new to it. -/
def add (keys : UnorderedSet KEY) (newVals : UnorderedSet VAL) :
    LocUnorderedSetMap KEY VAL × UnorderedSet KEY :=
  keys.foldl (addNext newVals) (m, [])

/-- `trimOrRemove` of the entry of a key, which holds `vals`: the map, whether the entry is gone,
and `goneVals` with the values that are. -/
def trimOrRemoveEntry (key : KEY) (vals rVals goneVals : UnorderedSet VAL) :
    LocUnorderedSetMap KEY VAL × Bool × UnorderedSet VAL :=
  let (vals, goneVals) := trimSet vals rVals goneVals
  if vals = [] then (m.remove key, true, goneVals)
  else (⟨m.mMap.insert key vals⟩, false, goneVals)

/-- One round of `trimOrRemove`, on the map, `goneKeys` and `goneVals`. -/
def trimOrRemoveKey (readErased : KEY → KEY) (rVals : UnorderedSet VAL) :
    LocUnorderedSetMap KEY VAL × UnorderedSet KEY × UnorderedSet VAL → KEY →
      LocUnorderedSetMap KEY VAL × UnorderedSet KEY × UnorderedSet VAL
  | (m, goneKeys, goneVals), key =>
    match m.mMap.lookup key with
    | none => (m, goneKeys, goneVals)
    | some vals =>
      let (m, removeEntry, goneVals) := m.trimOrRemoveEntry key vals rVals goneVals
      (m, if removeEntry then List.insert (readErased key) goneKeys else goneKeys, goneVals)

/-- `trimOrRemove`: the map, the keys that are gone, and the values that are. -/
def trimOrRemove (readErased : KEY → KEY) (keys : UnorderedSet KEY) (rVals : UnorderedSet VAL) :
    LocUnorderedSetMap KEY VAL × UnorderedSet KEY × UnorderedSet VAL :=
  keys.foldl (trimOrRemoveKey readErased rVals) (m, [], [])

/-- `update`: the map, what is left of `newVals`, and what is returned. -/
def update (key : KEY) (newVals : UnorderedSet VAL) :
    LocUnorderedSetMap KEY VAL × UnorderedSet VAL × UnorderedSet VAL :=
  if newVals = [] then (m.remove key, newVals, [])
  else
    let curVals := m.getValSet key
    let (_, newVals', goneVals) := removeAndReturnInterset curVals newVals
    (⟨m.mMap.insert key newVals⟩, newVals', goneVals)

variable {m}

theorem addKey_spec (h : m.Clean) (key : KEY) (hne : newVals ≠ []) :
    (m.addKey key newVals).1.Clean ∧
      (∀ k v, (m.addKey key newVals).1.Holds k v ↔ m.Holds k v ∨ k = key ∧ v ∈ newVals) ∧
      ((m.addKey key newVals).2 = true ↔ ¬∃ v, m.Holds key v) := by
  rw [addKey, if_pos hne]
  cases hl : m.mMap.lookup key with
  | none =>
    refine ⟨h.insert hne, fun k v ↦ ?_, by simp [not_holds_of_lookup hl]⟩
    rw [holds_insert]
    split
    · next heq => simp [heq, not_holds_of_lookup hl]
    · next hk => simp [hk]
  | some vals =>
    have hvals := h key vals hl
    refine ⟨h.insert fun hnil ↦ hvals ?_, fun k v ↦ ?_, ?_⟩
    · refine eq_nil_iff_forall_not_mem.mpr fun v hv ↦ ?_
      have hmem : v ∈ vals.insertAll newVals := UnorderedSet.mem_insertAll.mpr (.inl hv)
      rw [hnil] at hmem
      exact not_mem_nil hmem
    · rw [holds_insert]
      split
      · next heq => simp [heq, holds_of_lookup hl]
      · next hk => simp [hk]
    · obtain ⟨v, hv⟩ := exists_mem_of_ne_nil vals hvals
      simpa using ⟨v, (holds_of_lookup hl).mpr hv⟩

theorem foldl_addNext_spec (h : m.Clean) (hne : newVals ≠ []) (newKeys : UnorderedSet KEY) :
    (keys.foldl (addNext newVals) (m, newKeys)).1.Clean ∧
      (∀ k v, (keys.foldl (addNext newVals) (m, newKeys)).1.Holds k v ↔
        m.Holds k v ∨ k ∈ keys ∧ v ∈ newVals) ∧
      ∀ k, k ∈ (keys.foldl (addNext newVals) (m, newKeys)).2 ↔
        k ∈ newKeys ∨ k ∈ keys ∧ ¬∃ v, m.Holds k v := by
  induction keys generalizing m newKeys with
  | nil => simp [h]
  | cons key keys ih =>
    obtain ⟨hclean, hholds, hnew⟩ := addKey_spec h key hne
    rw [foldl_cons, addNext]
    obtain ⟨hclean', hholds', hnew'⟩ := ih hclean
      (if (m.addKey key newVals).2 then List.insert key newKeys else newKeys)
    refine ⟨hclean', fun k v ↦ ?_, fun k ↦ ?_⟩
    · rw [hholds', hholds, mem_cons]
      tauto
    · -- a key that comes again is not new any more
      have hkey : (∃ v, (m.addKey key newVals).1.Holds k v) ↔ (∃ v, m.Holds k v) ∨ k = key := by
        obtain ⟨v, hv⟩ := exists_mem_of_ne_nil newVals hne
        simp only [hholds, exists_or, exists_and_left]
        exact or_congr_right (and_iff_left ⟨v, hv⟩)
      rw [hnew', hkey, mem_cons]
      split
      · next hflag =>
        have hfirst := hnew.mp hflag
        rw [mem_insert_iff]
        by_cases heq : k = key
        · simp [heq, hfirst]
        · simp [heq]
      · next hflag =>
        have hfirst := not_not.mp (mt hnew.mpr hflag)
        by_cases heq : k = key
        · simp [heq, hfirst]
        · simp [heq]

/-- `add` adds the values to the entries of the keys, and reports the keys that had none. -/
theorem add_spec (h : m.Clean) (keys : UnorderedSet KEY) (hne : newVals ≠ []) :
    (m.add keys newVals).1.Clean ∧
      (∀ k v, (m.add keys newVals).1.Holds k v ↔ m.Holds k v ∨ k ∈ keys ∧ v ∈ newVals) ∧
      ∀ k, k ∈ (m.add keys newVals).2 ↔ k ∈ keys ∧ ¬∃ v, m.Holds k v := by
  obtain ⟨hclean, hholds, hnew⟩ := foldl_addNext_spec h hne []
  refine ⟨hclean, hholds, fun k ↦ (hnew k).trans ?_⟩
  simp only [not_mem_nil, false_or]

variable {r : LocUnorderedSetMap KEY VAL × UnorderedSet KEY × UnorderedSet VAL}

theorem trimOrRemoveKey_spec (readErased : KEY → KEY) (rVals : UnorderedSet VAL) (h : r.1.Clean)
    (key : KEY) :
    (trimOrRemoveKey readErased rVals r key).1.Clean ∧
      (∀ k v, (trimOrRemoveKey readErased rVals r key).1.Holds k v ↔
        r.1.Holds k v ∧ ¬(k = key ∧ v ∈ rVals)) ∧
      (∀ x, x ∈ (trimOrRemoveKey readErased rVals r key).2.1 ↔
        x ∈ r.2.1 ∨ x = readErased key ∧ r.1.Emptied rVals key) ∧
      ∀ v, v ∈ (trimOrRemoveKey readErased rVals r key).2.2 ↔
        v ∈ r.2.2 ∨ r.1.Holds key v ∧ v ∈ rVals := by
  obtain ⟨m, goneKeys, goneVals⟩ := r
  rw [trimOrRemoveKey]
  cases hl : m.mMap.lookup key with
  | none =>
    have hnone : ∀ v, ¬m.Holds key v := fun v ↦ not_holds_of_lookup hl
    refine ⟨h, fun k v ↦ ?_, fun x ↦ ?_, fun v ↦ ?_⟩
    · refine (and_iff_left_of_imp fun hk ⟨heq, _⟩ ↦ hnone v (heq ▸ hk)).symm
    · simp [Emptied, hnone]
    · simp [hnone]
  | some vals =>
    have hkey : ∀ v, m.Holds key v ↔ v ∈ vals := fun v ↦ holds_of_lookup hl
    have hleft : ∀ v, v ∈ (trimSet vals rVals goneVals).1 ↔ v ∈ vals ∧ v ∉ rVals :=
      fun v ↦ mem_trimSet.1
    have hgone : ∀ v, v ∈ (trimSet vals rVals goneVals).2 ↔
        v ∈ goneVals ∨ m.Holds key v ∧ v ∈ rVals := fun v ↦ by rw [mem_trimSet.2, hkey]
    dsimp only [trimOrRemoveEntry]
    split
    · next hempty =>
      -- nothing is left, so that all values were to go
      have hall : ∀ v ∈ vals, v ∈ rVals := by
        intro v hv
        by_contra hr
        have hmem := (hleft v).mpr ⟨hv, hr⟩
        rw [hempty] at hmem
        exact not_mem_nil hmem
      have hemptied : m.Emptied rVals key := by
        obtain ⟨v, hv⟩ := exists_mem_of_ne_nil vals (h key vals hl)
        exact ⟨⟨v, (hkey v).mpr hv⟩, fun v hv ↦ hall v ((hkey v).mp hv)⟩
      refine ⟨h.remove, fun k v ↦ ?_, fun x ↦ ?_, hgone⟩
      · rw [holds_remove]
        by_cases heq : k = key
        · simpa [heq, hkey] using hall v
        · simp [heq]
      · simp [hemptied, or_comm]
    · next hne =>
      have hnot : ¬m.Emptied rVals key := by
        rintro ⟨-, hall⟩
        obtain ⟨v, hv⟩ := exists_mem_of_ne_nil _ hne
        obtain ⟨hv, hr⟩ := (hleft v).mp hv
        exact hr (hall v ((hkey v).mpr hv))
      refine ⟨h.insert hne, fun k v ↦ ?_, fun x ↦ ?_, hgone⟩
      · rw [holds_insert]
        split
        · next heq => simp [heq, hkey, hleft]
        · next hk => simp [hk]
      · simp [hnot]

theorem foldl_trimOrRemoveKey_spec (readErased : KEY → KEY) (rVals : UnorderedSet VAL) (h : r.1.Clean) :
    (keys.foldl (trimOrRemoveKey readErased rVals) r).1.Clean ∧
      (∀ k v, (keys.foldl (trimOrRemoveKey readErased rVals) r).1.Holds k v ↔
        r.1.Holds k v ∧ ¬(k ∈ keys ∧ v ∈ rVals)) ∧
      (∀ x, x ∈ (keys.foldl (trimOrRemoveKey readErased rVals) r).2.1 ↔
        x ∈ r.2.1 ∨ ∃ key ∈ keys, x = readErased key ∧ r.1.Emptied rVals key) ∧
      ∀ v, v ∈ (keys.foldl (trimOrRemoveKey readErased rVals) r).2.2 ↔
        v ∈ r.2.2 ∨ ∃ key ∈ keys, r.1.Holds key v ∧ v ∈ rVals := by
  induction keys generalizing r with
  | nil => simp [h]
  | cons key keys ih =>
    obtain ⟨hclean, hholds, hkeys, hvals⟩ := trimOrRemoveKey_spec readErased rVals h key
    rw [foldl_cons]
    obtain ⟨hclean', hholds', hkeys', hvals'⟩ := ih hclean
    have hother : ∀ k, (trimOrRemoveKey readErased rVals r key).1.Emptied rVals k ↔
        k ≠ key ∧ r.1.Emptied rVals k := by
      intro k
      by_cases heq : k = key
      · refine iff_of_false ?_ (fun hne ↦ hne.1 heq)
        rintro ⟨⟨v, hv⟩, hall⟩
        exact ((hholds k v).mp hv).2 ⟨heq, hall v hv⟩
      · simp [Emptied, hholds, heq]
    refine ⟨hclean', fun k v ↦ ?_, fun x ↦ ?_, fun v ↦ ?_⟩
    · rw [hholds', hholds, mem_cons]
      tauto
    · rw [hkeys', hkeys]
      simp only [hother, exists_mem_cons_iff]
      constructor
      · rintro ((hx | hx) | ⟨k, hk, hx, -, he⟩)
        · exact .inl hx
        · exact .inr (.inl hx)
        · exact .inr (.inr ⟨k, hk, hx, he⟩)
      · rintro (hx | hx | ⟨k, hk, hx, he⟩)
        · exact .inl (.inl hx)
        · exact .inl (.inr hx)
        · by_cases heq : k = key
          · exact .inl (.inr ⟨heq ▸ hx, heq ▸ he⟩)
          · exact .inr ⟨k, hk, hx, heq, he⟩
    · rw [hvals', hvals]
      simp only [hholds, exists_mem_cons_iff]
      constructor
      · rintro ((hv | hv) | ⟨k, hk, ⟨hv, -⟩, hr⟩)
        · exact .inl hv
        · exact .inr (.inl hv)
        · exact .inr (.inr ⟨k, hk, hv, hr⟩)
      · rintro (hv | hv | ⟨k, hk, hv, hr⟩)
        · exact .inl (.inl hv)
        · exact .inl (.inr hv)
        · by_cases heq : k = key
          · exact .inl (.inr ⟨heq ▸ hv, hr⟩)
          · exact .inr ⟨k, hk, ⟨hv, fun hk ↦ heq hk.1⟩, hr⟩

/-- `trimOrRemove` takes the values out of the entries of the keys. It reports the keys that have
lost all their values, and the values that were there. -/
theorem trimOrRemove_spec (readErased : KEY → KEY) (h : m.Clean) (keys : UnorderedSet KEY)
    (rVals : UnorderedSet VAL) :
    (m.trimOrRemove readErased keys rVals).1.Clean ∧
      (∀ k v, (m.trimOrRemove readErased keys rVals).1.Holds k v ↔
        m.Holds k v ∧ ¬(k ∈ keys ∧ v ∈ rVals)) ∧
      (∀ x, x ∈ (m.trimOrRemove readErased keys rVals).2.1 ↔
        ∃ key ∈ keys, x = readErased key ∧ m.Emptied rVals key) ∧
      ∀ v, v ∈ (m.trimOrRemove readErased keys rVals).2.2 ↔
        ∃ key ∈ keys, m.Holds key v ∧ v ∈ rVals := by
  obtain ⟨hclean, hholds, hkeys, hvals⟩ :=
    foldl_trimOrRemoveKey_spec readErased rVals (r := (m, [], [])) h
  refine ⟨hclean, hholds, fun x ↦ (hkeys x).trans ?_, fun v ↦ (hvals v).trans ?_⟩
  · simp only [not_mem_nil, false_or]
  · simp only [not_mem_nil, false_or]

/-- `update` puts new values in the place of the old ones, and returns the values that are in both,
which it also takes out of the new ones. -/
theorem update_spec (h : m.Clean) (key : KEY) (hne : newVals ≠ []) :
    (m.update key newVals).1.Clean ∧
      (∀ k v, (m.update key newVals).1.Holds k v ↔ if k = key then v ∈ newVals else m.Holds k v) ∧
      (∀ v, v ∈ (m.update key newVals).2.1 ↔ v ∈ newVals ∧ ¬m.Holds key v) ∧
      ∀ v, v ∈ (m.update key newVals).2.2 ↔ m.Holds key v ∧ v ∈ newVals := by
  rw [update, if_neg hne]
  exact ⟨h.insert hne, fun k v ↦ holds_insert, fun v ↦ mem_removeAndReturnInterset.1,
    fun v ↦ mem_removeAndReturnInterset.2⟩

namespace Distinct

theorem addKey (h : m.Distinct) (hvals : newVals.Nodup) : (m.addKey key newVals).1.Distinct := by
  rw [LocUnorderedSetMap.addKey]
  split
  · split
    · next hl => exact h.insert (UnorderedSet.nodup_insertAll (h.of_lookup hl) newVals)
    · exact h.insert hvals
  · exact h

variable {r : LocUnorderedSetMap KEY VAL × UnorderedSet KEY × UnorderedSet VAL}

theorem trimOrRemoveKey (h : r.1.Distinct)
    (readErased : KEY → KEY) (rVals : UnorderedSet VAL) (key : KEY) :
    (LocUnorderedSetMap.trimOrRemoveKey readErased rVals r key).1.Distinct := by
  obtain ⟨m, goneKeys, goneVals⟩ := r
  rw [LocUnorderedSetMap.trimOrRemoveKey]
  cases hl : m.mMap.lookup key with
  | none => exact h
  | some vals =>
    dsimp only [trimOrRemoveEntry]
    split
    · exact h.remove
    · exact h.insert (nodup_trimSet (h.of_lookup hl) rVals goneVals)

theorem foldl_trimOrRemoveKey (h : r.1.Distinct)
    (readErased : KEY → KEY) (keys : UnorderedSet KEY) (rVals : UnorderedSet VAL) :
    (keys.foldl (LocUnorderedSetMap.trimOrRemoveKey readErased rVals) r).1.Distinct := by
  induction keys generalizing r with
  | nil => exact h
  | cons key keys ih => exact ih (h.trimOrRemoveKey readErased rVals key)

theorem trimOrRemove (h : m.Distinct) (readErased : KEY → KEY) (keys : UnorderedSet KEY)
    (rVals : UnorderedSet VAL) : (m.trimOrRemove readErased keys rVals).1.Distinct :=
  foldl_trimOrRemoveKey (r := (m, [], [])) h readErased keys rVals

theorem update (h : m.Distinct) (hvals : newVals.Nodup) : (m.update key newVals).1.Distinct := by
  rw [LocUnorderedSetMap.update]
  split
  · exact h.remove
  · exact h.insert hvals

end Distinct

end Operations

end LocUnorderedSetMap

end MataDevice.Observer
