import Mathlib.Data.List.Nodup
import Mathlib.Order.Lattice

/-!
# Ordered maps

A map from a linearly ordered type of keys, kept as the list of its entries in the order of their
keys. That the list is strictly sorted is part of the structure, so that a key has at most one entry
and a walk through the map meets the entries in the order of the keys, as a walk through a balanced
search tree does.
-/

namespace MataDevice

open List

structure OrderedMap (κ α : Type) [LinearOrder κ] where
  entries : List (κ × α)
  sorted : entries.Pairwise fun e e' ↦ e.1 < e'.1

namespace OrderedMap

variable {κ α : Type} [LinearOrder κ]

def empty : OrderedMap κ α := ⟨[], .nil⟩

section Operations

variable (m : OrderedMap κ α)

def find? (k : κ) : Option α := (m.entries.find? fun e ↦ e.1 = k).map Prod.snd

/-- The value under a key, set or replaced. -/
def insert (k : κ) (v : α) : OrderedMap κ α where
  entries := (m.entries.filter fun e ↦ e.1 < k) ++ (k, v) :: m.entries.filter fun e ↦ k < e.1
  sorted := by
    refine pairwise_append.mpr ⟨m.sorted.filter _, ?_, ?_⟩
    · refine pairwise_cons.mpr ⟨fun e he ↦ ?_, m.sorted.filter _⟩
      simpa using (mem_filter.mp he).2
    · intro e he e' he'
      have hlt : e.1 < k := by simpa using (mem_filter.mp he).2
      rcases mem_cons.mp he' with rfl | he'
      · exact hlt
      · exact hlt.trans (by simpa using (mem_filter.mp he').2)

def erase (k : κ) : OrderedMap κ α where
  entries := m.entries.filter fun e ↦ e.1 ≠ k
  sorted := m.sorted.filter _

/-- The entries that satisfy `p`. -/
def filter (p : κ × α → Bool) : OrderedMap κ α where
  entries := m.entries.filter p
  sorted := m.sorted.filter _

/-- Every value replaced. -/
def mapValues (f : α → α) : OrderedMap κ α where
  entries := m.entries.map fun e ↦ (e.1, f e.2)
  sorted := pairwise_map.mpr m.sorted

def size : ℕ := m.entries.length

def isEmpty : Bool := m.entries.isEmpty

/-- The values in the order of their keys. -/
def values : List α := m.entries.map Prod.snd

end Operations

variable {m : OrderedMap κ α} {k : κ} {v w : α}

@[simp] theorem values_empty : (empty : OrderedMap κ α).values = [] := rfl

@[simp] theorem find?_empty : (empty : OrderedMap κ α).find? k = none := rfl

theorem mem_entries_insert {e : κ × α} :
    e ∈ (m.insert k v).entries ↔ e = (k, v) ∨ e ∈ (m.erase k).entries := by
  simp only [insert, erase, mem_append, mem_cons, mem_filter, decide_eq_true_eq,
    ne_eq, decide_not, Bool.not_eq_true', decide_eq_false_iff_not]
  constructor
  · rintro (⟨he, hlt⟩ | rfl | ⟨he, hlt⟩)
    · exact Or.inr ⟨he, hlt.ne⟩
    · exact Or.inl rfl
    · exact Or.inr ⟨he, hlt.ne'⟩
  · rintro (rfl | ⟨he, hne⟩)
    · exact Or.inr (Or.inl rfl)
    · rcases lt_or_gt_of_ne hne with hlt | hlt
      · exact Or.inl ⟨he, hlt⟩
      · exact Or.inr (Or.inr ⟨he, hlt⟩)

theorem mem_values_insert : w ∈ (m.insert k v).values ↔ w = v ∨ w ∈ (m.erase k).values := by
  simp only [values, mem_map, mem_entries_insert]
  constructor
  · rintro ⟨e, rfl | he, rfl⟩
    · exact Or.inl rfl
    · exact Or.inr ⟨e, he, rfl⟩
  · rintro (rfl | ⟨e, he, rfl⟩)
    · exact ⟨(k, w), Or.inl rfl, rfl⟩
    · exact ⟨e, Or.inr he, rfl⟩

theorem nodup_keys : (m.entries.map Prod.fst).Nodup :=
  (pairwise_map.mpr m.sorted).imp ne_of_lt

/-- A key has one entry at most. -/
theorem eq_of_mem_entries (h : (k, v) ∈ m.entries) (h' : (k, w) ∈ m.entries) : v = w :=
  (Prod.mk.inj (inj_on_of_nodup_map nodup_keys h h' rfl)).2

theorem find?_eq_some_iff : m.find? k = some v ↔ (k, v) ∈ m.entries := by
  rw [find?, Option.map_eq_some_iff]
  constructor
  · rintro ⟨⟨k', v'⟩, he, rfl⟩
    have hk : k' = k := by simpa using find?_some he
    exact hk ▸ mem_of_find?_eq_some he
  · intro h
    cases he : m.entries.find? fun e ↦ e.1 = k with
    | none => simpa using List.find?_eq_none.mp he _ h
    | some e =>
      obtain ⟨k', v'⟩ := e
      have hk : k' = k := by simpa using find?_some he
      subst hk
      exact ⟨_, rfl, eq_of_mem_entries (mem_of_find?_eq_some he) h⟩

theorem find?_eq_none_iff : m.find? k = none ↔ ∀ e ∈ m.entries, e.1 ≠ k := by
  simp [find?]

/-- A walk that leaves out a key without an entry leaves out nothing. -/
theorem erase_of_find?_eq_none (h : m.find? k = none) : m.erase k = m := by
  have hall : m.entries.filter (fun e ↦ e.1 ≠ k) = m.entries :=
    filter_eq_self.mpr fun e he ↦ by simpa using find?_eq_none_iff.mp h e he
  cases m
  simp only [erase, OrderedMap.mk.injEq]
  exact hall

theorem mem_values_of_find? (h : m.find? k = some v) : v ∈ m.values :=
  mem_map.mpr ⟨_, find?_eq_some_iff.mp h, rfl⟩

theorem mem_values_iff_of_find? (h : m.find? k = some v) :
    w ∈ m.values ↔ w = v ∨ w ∈ (m.erase k).values := by
  have hm := find?_eq_some_iff.mp h
  simp only [values, erase, mem_map, mem_filter, decide_eq_true_eq]
  constructor
  · rintro ⟨⟨k', w'⟩, he, rfl⟩
    by_cases hk : k' = k
    · subst hk
      exact Or.inl (eq_of_mem_entries he hm)
    · exact Or.inr ⟨(k', w'), ⟨he, hk⟩, rfl⟩
  · rintro (rfl | ⟨e, ⟨he, -⟩, rfl⟩)
    · exact ⟨_, hm, rfl⟩
    · exact ⟨e, he, rfl⟩

theorem mem_values_of_mem_erase (h : w ∈ (m.erase k).values) : w ∈ m.values := by
  obtain ⟨e, he, rfl⟩ := mem_map.mp h
  exact mem_map.mpr ⟨e, (mem_filter.mp he).1, rfl⟩

/-- The only entry of a map is the one that was found. -/
theorem erase_values_eq_nil_iff (h : m.find? k = some v) :
    (m.erase k).values = [] ↔ m.size = 1 := by
  have hm := find?_eq_some_iff.mp h
  have hkeys := nodup_keys (m := m)
  simp only [values, erase, size, map_eq_nil_iff, filter_eq_nil_iff, decide_eq_true_eq,
    not_not, ne_eq]
  constructor
  · intro hall
    have hrep : m.entries.map Prod.fst = List.replicate m.entries.length k := by
      rw [eq_replicate_iff]
      refine ⟨length_map .., fun k' hk' ↦ ?_⟩
      obtain ⟨e, he, rfl⟩ := mem_map.mp hk'
      exact hall e he
    rw [hrep, nodup_replicate] at hkeys
    have hpos := length_pos_of_mem hm
    omega
  · intro hone e he
    obtain ⟨e', he'⟩ := length_eq_one_iff.mp hone
    rw [he', mem_singleton] at he hm
    rw [he, ← hm]

theorem isEmpty_iff : m.isEmpty = true ↔ m.values = [] := by
  simp [isEmpty, values]

theorem mem_entries_erase {e : κ × α} : e ∈ (m.erase k).entries ↔ e ∈ m.entries ∧ e.1 ≠ k := by
  simp [erase]

/-- Keys with the same entries are looked up with the same result. -/
theorem find?_congr {m' : OrderedMap κ α} {k' : κ}
    (h : ∀ v, (k, v) ∈ m.entries ↔ (k', v) ∈ m'.entries) : m.find? k = m'.find? k' := by
  refine Option.ext fun v ↦ ?_
  rw [find?_eq_some_iff, find?_eq_some_iff]
  exact h v

theorem find?_insert (k' : κ) : (m.insert k v).find? k' = if k' = k then some v else m.find? k' := by
  split
  · next h =>
    rw [find?_eq_some_iff, mem_entries_insert, h]
    exact Or.inl rfl
  · next h =>
    refine find?_congr fun w ↦ ?_
    rw [mem_entries_insert, mem_entries_erase]
    simp [h]

theorem find?_erase (k' : κ) : (m.erase k).find? k' = if k' = k then none else m.find? k' := by
  split
  · next h =>
    rw [find?_eq_none_iff]
    intro e he
    exact h ▸ (mem_entries_erase.mp he).2
  · next h =>
    refine find?_congr fun w ↦ ?_
    rw [mem_entries_erase]
    exact and_iff_left h

theorem find?_mapValues (f : α → α) (k' : κ) : (m.mapValues f).find? k' = (m.find? k').map f := by
  refine Option.ext fun w ↦ ?_
  rw [find?_eq_some_iff, Option.map_eq_some_iff]
  simp only [mapValues, mem_map, Prod.mk.injEq, find?_eq_some_iff]
  constructor
  · rintro ⟨⟨k, v⟩, he, rfl, rfl⟩
    exact ⟨v, he, rfl⟩
  · rintro ⟨v, he, rfl⟩
    exact ⟨(k', v), he, rfl, rfl⟩

theorem find?_filter_eq_some_iff {p : κ × α → Bool} :
    (m.filter p).find? k = some v ↔ m.find? k = some v ∧ p (k, v) = true := by
  rw [find?_eq_some_iff, find?_eq_some_iff]
  exact mem_filter

theorem size_eq_zero_iff : m.size = 0 ↔ ∀ k, m.find? k = none := by
  simp only [size, length_eq_zero_iff, find?_eq_none_iff]
  constructor
  · intro h k e he
    rw [h] at he
    cases he
  · intro h
    exact eq_nil_iff_forall_not_mem.mpr fun e he ↦ h e.1 e he rfl

theorem nodup_entries : m.entries.Nodup := nodup_keys.of_map

/-- The entries of one key. -/
theorem filter_fst_entries (m : OrderedMap κ α) {p : κ × α → Bool}
    (hp : ∀ e, p e = true ↔ e.1 = k) : m.entries.filter p = ((m.find? k).map (k, ·)).toList := by
  cases h : m.find? k with
  | none =>
    rw [Option.map_none, Option.toList_none, filter_eq_nil_iff]
    intro e he
    rw [hp]
    exact find?_eq_none_iff.mp h e he
  | some v =>
    rw [Option.map_some, Option.toList_some, ← perm_singleton,
      perm_ext_iff_of_nodup (nodup_entries.filter _) (nodup_singleton _)]
    intro e
    rw [mem_filter, mem_singleton, hp]
    constructor
    · rintro ⟨he, rfl⟩
      exact Prod.ext rfl (eq_of_mem_entries he (find?_eq_some_iff.mp h))
    · rintro rfl
      exact ⟨find?_eq_some_iff.mp h, rfl⟩

theorem entries_insert_perm : (m.insert k v).entries.Perm ((k, v) :: (m.erase k).entries) := by
  refine (perm_ext_iff_of_nodup nodup_entries ?_).mpr fun e ↦ ?_
  · exact nodup_cons.mpr ⟨fun h ↦ (mem_entries_erase.mp h).2 rfl, nodup_entries⟩
  · rw [mem_entries_insert, mem_cons]

theorem size_insert : (m.insert k v).size = (m.erase k).size + 1 :=
  entries_insert_perm.length_eq

theorem size_erase_of_find? (h : m.find? k = some v) : (m.erase k).size + 1 = m.size := by
  have hperm : m.entries.Perm ((k, v) :: (m.erase k).entries) := by
    refine (perm_ext_iff_of_nodup nodup_entries ?_).mpr fun e ↦ ?_
    · exact nodup_cons.mpr ⟨fun h ↦ (mem_entries_erase.mp h).2 rfl, nodup_entries⟩
    · rw [mem_cons, mem_entries_erase]
      constructor
      · intro he
        by_cases hk : e.1 = k
        · subst hk
          exact Or.inl (Prod.ext rfl (eq_of_mem_entries he (find?_eq_some_iff.mp h)))
        · exact Or.inr ⟨he, hk⟩
      · rintro (rfl | he)
        · exact find?_eq_some_iff.mp h
        · exact he.1
  exact hperm.length_eq.symm

theorem size_insert_of_find? (h : m.find? k = some w) : (m.insert k v).size = m.size := by
  rw [size_insert, size_erase_of_find? h]

theorem size_insert_of_find?_eq_none (h : m.find? k = none) : (m.insert k v).size = m.size + 1 := by
  rw [size_insert, erase_of_find?_eq_none h]

end OrderedMap

end MataDevice
