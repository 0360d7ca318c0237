import Mathlib.Tactic

/-!
# Geofence events in batches

The modem reports that geofences were breached, or dwelled in, with a list of ids and a list of
ranges of ids. `LocApiV02` counts the ids, allocates an array for them and writes them into it, in
the same way for both events.

The ids of a range are counted by the difference of its ends, and written by a loop up to the upper
end, both with 32 bits. A range that ends at the greatest id is written without end, and one that
ends well below its beginning is counted as almost all ids. The array is indexed with 32 bits as
well. `Countable` says when none of this happens.

A slot of the array that is not written has no value. `fuel` bounds the rounds of the loop over a
range, which has no result if they are not enough. A `size_t` has 64 bits, and the counts fit into
it. The position is converted as in other reports and only passed on here.
-/

namespace MataDevice.GeofenceEvents

open List

variable {ℓ : Type}

/-- `qmiLocGeofenceIdContinuousStructT_v02` -/
structure IdRange where
  idLow : UInt32
  idHigh : UInt32
  deriving DecidableEq, Repr

/-- The two lists of an indication, each with whether it is valid. Their lengths have 32 bits. -/
structure IdLists where
  geofenceIdDiscreteList_valid : UInt8
  geofenceIdDiscreteList : List UInt32
  geofenceIdContinuousList_valid : UInt8
  geofenceIdContinuousList : List IdRange
  discrete_lt : geofenceIdDiscreteList.length < 2 ^ 32
  continuous_lt : geofenceIdContinuousList.length < 2 ^ 32

/-- `hwIds` and `index` -/
structure Slots where
  hwIds : List (Option UInt32)
  index : UInt32

/-- `if (index < count) { hwIds[index++] = id; }` -/
def Slots.put (count : ℕ) (s : Slots) (id : UInt32) : Slots :=
  if s.index.toNat < count then ⟨s.hwIds.set s.index.toNat (some id), s.index + 1⟩ else s

/-- The loop over the ids of a range -/
def writeRange (count : ℕ) : (fuel : ℕ) → (j idHigh : UInt32) → Slots → Option Slots
  | 0, _, _, _ => none
  | fuel + 1, j, idHigh, s =>
    if j ≤ idHigh then writeRange count fuel (j + 1) idHigh (s.put count j) else some s

def IdLists.count (l : IdLists) : ℕ :=
  (if l.geofenceIdDiscreteList_valid = 1 then l.geofenceIdDiscreteList.length else 0) +
    if l.geofenceIdContinuousList_valid = 1 then
      (l.geofenceIdContinuousList.map fun r ↦ (r.idHigh - r.idLow + 1).toNat).sum
    else 0

/-- The count and the array that `geofenceBreach` is called with, if it is called -/
def expandIds (fuel : ℕ) (l : IdLists) : Option (Option (ℕ × List (Option UInt32))) :=
  let count := l.count
  if count = 0 then some none
  else do
    let s : Slots := ⟨List.replicate count none, 0⟩
    let s := if l.geofenceIdDiscreteList_valid = 1 then
        l.geofenceIdDiscreteList.foldl (Slots.put count) s
      else s
    let s ← if l.geofenceIdContinuousList_valid = 1 then
        l.geofenceIdContinuousList.foldlM
          (fun s r ↦ writeRange count fuel r.idLow r.idHigh s) s
      else some s
    some (some (count, s.hwIds))

inductive GeofenceBreachType
  | enter
  | exit
  | dwellIn
  | dwellOut
  | unknown
  deriving DecidableEq, Repr

/-- The arguments of `LocApiBase::geofenceBreach` -/
structure GeofenceBreach (ℓ : Type) where
  count : ℕ
  hwIds : List (Option UInt32)
  location : ℓ
  breachType : GeofenceBreachType
  timestamp : ℤ
  deriving DecidableEq

/-- `qmiLocEventGeofenceBatchedBreachIndMsgT_v02` -/
structure BatchedBreachInd (ℓ : Type) extends IdLists where
  breachType : ℤ
  geofencePosition : ℓ

/-- `qmiLocEventGeofenceBatchedDwellIndMsgT_v02` -/
structure BatchedDwellInd (ℓ : Type) extends IdLists where
  dwellType : ℤ
  geofencePosition : ℓ

/-- The values of `qmiLocGeofenceBreachTypeEnumT_v02` -/
def breachTypeOf (breachType : ℤ) : GeofenceBreachType :=
  if breachType = 1 then .enter else if breachType = 2 then .exit else .unknown

/-- The values of `qmiLocGeofenceDwellTypeEnumT_v02` -/
def dwellTypeOf (dwellType : ℤ) : GeofenceBreachType :=
  if dwellType = 1 then .dwellIn else if dwellType = 2 then .dwellOut else .unknown

/-- Both events, once the type is converted -/
def reportIds (fuel : ℕ) (l : IdLists) (location : ℓ) (breachType : GeofenceBreachType)
    (timestamp : ℤ) : Option (Option (GeofenceBreach ℓ)) :=
  (expandIds fuel l).map fun call ↦ call.map fun ids ↦
    ⟨ids.1, ids.2, location, breachType, timestamp⟩

/-- `LocApiV02::geofenceBreachEvent`, with the call that it makes -/
def geofenceBreachEvent (fuel : ℕ) (timestamp : ℤ) (breachInfo : BatchedBreachInd ℓ) :
    Option (Option (GeofenceBreach ℓ)) :=
  reportIds fuel breachInfo.toIdLists breachInfo.geofencePosition
    (breachTypeOf breachInfo.breachType) timestamp

/-- `LocApiV02::geofenceDwellEvent`, with the call that it makes -/
def geofenceDwellEvent (fuel : ℕ) (timestamp : ℤ) (dwellInfo : BatchedDwellInd ℓ) :
    Option (Option (GeofenceBreach ℓ)) :=
  reportIds fuel dwellInfo.toIdLists dwellInfo.geofencePosition
    (dwellTypeOf dwellInfo.dwellType) timestamp

/-! ## The ids that are meant -/

/-- The ids from `j` up to the upper end -/
def idsFrom (j idHigh : UInt32) : List UInt32 :=
  (List.range' j.toNat (idHigh.toNat + 1 - j.toNat)).map UInt32.ofNat

namespace IdLists

variable (l : IdLists)

/-- The ids of the list, if it is valid -/
def discrete : List UInt32 :=
  if l.geofenceIdDiscreteList_valid = 1 then l.geofenceIdDiscreteList else []

/-- The ranges, if they are valid -/
def ranges : List IdRange :=
  if l.geofenceIdContinuousList_valid = 1 then l.geofenceIdContinuousList else []

def ids : List UInt32 := l.discrete ++ l.ranges.flatMap fun r ↦ idsFrom r.idLow r.idHigh

end IdLists

/-- A batched event -/
inductive BatchedInd (ℓ : Type)
  | breach (info : BatchedBreachInd ℓ)
  | dwell (info : BatchedDwellInd ℓ)

namespace BatchedInd

def lists : BatchedInd ℓ → IdLists
  | breach info => info.toIdLists
  | dwell info => info.toIdLists

def handle (fuel : ℕ) (timestamp : ℤ) : BatchedInd ℓ → Option (Option (GeofenceBreach ℓ))
  | breach info => geofenceBreachEvent fuel timestamp info
  | dwell info => geofenceDwellEvent fuel timestamp info

def location : BatchedInd ℓ → ℓ
  | breach info => info.geofencePosition
  | dwell info => info.geofencePosition

def type : BatchedInd ℓ → GeofenceBreachType
  | breach info => breachTypeOf info.breachType
  | dwell info => dwellTypeOf info.dwellType

/-- The event comes to its end, and with a call that names the geofences exactly if there are
any. -/
def IsNamed (timestamp : ℤ) (ind : BatchedInd ℓ) : Prop :=
  ∃ fuel, ind.handle fuel timestamp = some (
    if ind.lists.ids = [] then none
    else some ⟨ind.lists.ids.length, ind.lists.ids.map some, ind.location, ind.type, timestamp⟩)

end BatchedInd

/-- No range ends at the greatest id or more than one below its beginning, and there are no more ids
than indices. -/
def Countable (l : IdLists) : Prop :=
  (∀ r ∈ l.ranges, r.idHigh ≠ 0xFFFFFFFF ∧ r.idLow.toNat ≤ r.idHigh.toNat + 1) ∧
    l.discrete.length + (l.ranges.map fun r ↦ r.idHigh.toNat + 1 - r.idLow.toNat).sum ≤ 2 ^ 32

/-! ## The loops -/

section

variable {count fuel : ℕ} {j idHigh : UInt32} {s s' : Slots} {l : IdLists} {r : IdRange}

theorem idsFrom_of_lt (h : idHigh < j) : idsFrom j idHigh = [] := by
  have hzero : idHigh.toNat + 1 - j.toNat = 0 := by
    rw [UInt32.lt_iff_toNat_lt] at h
    omega
  rw [idsFrom, hzero]
  rfl

theorem toNat_add_one (h : j.toNat + 1 < 2 ^ 32) : (j + 1).toNat = j.toNat + 1 := by
  rw [UInt32.toNat_add]
  exact Nat.mod_eq_of_lt h

theorem idsFrom_of_le (hle : j ≤ idHigh) (hmax : idHigh ≠ 0xFFFFFFFF) :
    idsFrom j idHigh = j :: idsFrom (j + 1) idHigh := by
  have hlt := idHigh.toNat_lt
  have hne : idHigh.toNat ≠ 2 ^ 32 - 1 := fun h ↦ hmax (UInt32.toNat_inj.mp h)
  rw [UInt32.le_iff_toNat_le] at hle
  have hlen : idHigh.toNat + 1 - j.toNat = idHigh.toNat + 1 - (j.toNat + 1) + 1 := by omega
  rw [idsFrom, idsFrom, hlen, range'_succ, map_cons, UInt32.ofNat_toNat,
    toNat_add_one (by omega)]

theorem length_idsFrom (j idHigh : UInt32) :
    (idsFrom j idHigh).length = idHigh.toNat + 1 - j.toNat := by
  rw [idsFrom, length_map, length_range']

/-- The loop over a range that does not end at the greatest id writes its ids. -/
theorem writeRange_eq (hmax : idHigh ≠ 0xFFFFFFFF) (count fuel : ℕ) (j : UInt32) (s : Slots) :
    writeRange count fuel j idHigh s =
      if (idsFrom j idHigh).length < fuel then some ((idsFrom j idHigh).foldl (Slots.put count) s)
      else none := by
  induction fuel generalizing j s with
  | zero => rfl
  | succ fuel ih =>
    rw [writeRange]
    by_cases hle : j ≤ idHigh
    · rw [if_pos hle, ih, idsFrom_of_le hle hmax]
      simp only [length_cons, Nat.succ_lt_succ_iff, foldl_cons]
    · rw [if_neg hle, idsFrom_of_lt (UInt32.not_le.mp hle)]
      simp

/-- The loop over a range that ends at the greatest id does not end. -/
theorem writeRange_max (count fuel : ℕ) (j : UInt32) (s : Slots) :
    writeRange count fuel j 0xFFFFFFFF s = none := by
  induction fuel generalizing j s with
  | zero => rfl
  | succ fuel ih =>
    have hle : j ≤ 0xFFFFFFFF := UInt32.le_iff_toNat_le.mpr (Nat.le_of_lt_succ j.toNat_lt)
    rw [writeRange, if_pos hle, ih]

theorem foldlM_writeRange_eq {ranges : List IdRange} (hmax : ∀ r ∈ ranges, r.idHigh ≠ 0xFFFFFFFF)
    (count fuel : ℕ) (s : Slots) :
    ranges.foldlM (fun s r ↦ writeRange count fuel r.idLow r.idHigh s) s =
      if ∀ r ∈ ranges, (idsFrom r.idLow r.idHigh).length < fuel then
        some ((ranges.flatMap fun r ↦ idsFrom r.idLow r.idHigh).foldl (Slots.put count) s)
      else none := by
  induction ranges generalizing s with
  | nil => simp
  | cons r ranges ih =>
    obtain ⟨hr, hranges⟩ := forall_mem_cons.mp hmax
    rw [foldlM_cons, writeRange_eq hr]
    by_cases hfuel : (idsFrom r.idLow r.idHigh).length < fuel
    · rw [if_pos hfuel, Option.bind_eq_bind, Option.bind_some, ih hranges, flatMap_cons,
        foldl_append]
      simp only [forall_mem_cons, hfuel, true_and]
    · rw [if_neg hfuel, if_neg fun h ↦ hfuel (h r mem_cons_self)]
      rfl

theorem foldlM_writeRange_max {ranges : List IdRange} (h : r ∈ ranges)
    (hmax : r.idHigh = 0xFFFFFFFF) (count fuel : ℕ) (s : Slots) :
    ranges.foldlM (fun s r ↦ writeRange count fuel r.idLow r.idHigh s) s = none := by
  induction ranges generalizing s with
  | nil => cases h
  | cons r' ranges ih =>
    rw [foldlM_cons]
    rcases mem_cons.mp h with rfl | h
    · rw [hmax, writeRange_max]
      rfl
    · cases writeRange count fuel r'.idLow r'.idHigh s with
      | none => rfl
      | some s' => exact ih h s'

/-- Only the valid lists matter. -/
theorem expandIds_eq (fuel : ℕ) (l : IdLists) :
    expandIds fuel l =
      if l.count = 0 then some none
      else
        (l.ranges.foldlM (fun s r ↦ writeRange l.count fuel r.idLow r.idHigh s)
          (l.discrete.foldl (Slots.put l.count) ⟨List.replicate l.count none, 0⟩)).map
          fun s ↦ some (l.count, s.hwIds) := by
  rw [expandIds, IdLists.discrete, IdLists.ranges]
  split
  · rfl
  · have hdiscrete : (if l.geofenceIdDiscreteList_valid = 1 then
          l.geofenceIdDiscreteList.foldl (Slots.put l.count) ⟨List.replicate l.count none, 0⟩
        else ⟨List.replicate l.count none, 0⟩)
        = (if l.geofenceIdDiscreteList_valid = 1 then l.geofenceIdDiscreteList else []).foldl
          (Slots.put l.count) ⟨List.replicate l.count none, 0⟩ := by
      split <;> rfl
    dsimp only
    rw [hdiscrete, Option.map_eq_bind]
    split <;> rfl

/-- What the ids of a range are counted as -/
def IdRange.counted (r : IdRange) : ℕ := (r.idHigh - r.idLow + 1).toNat

theorem count_eq (l : IdLists) :
    l.count = l.discrete.length + (l.ranges.map IdRange.counted).sum := by
  rw [IdLists.count, IdLists.discrete, IdLists.ranges]
  split <;> split <;> rfl

theorem length_ids (l : IdLists) :
    l.ids.length = l.discrete.length
      + (l.ranges.map fun r ↦ r.idHigh.toNat + 1 - r.idLow.toNat).sum := by
  rw [IdLists.ids, length_append, length_flatMap]
  simp only [length_idsFrom]

/-- A range that does not end at the greatest id is counted right unless it ends more than one below
its beginning. -/
theorem counted_eq (hmax : r.idHigh ≠ 0xFFFFFFFF) :
    r.counted = if r.idLow.toNat ≤ r.idHigh.toNat + 1 then r.idHigh.toNat + 1 - r.idLow.toNat
      else 2 ^ 32 + r.idHigh.toNat + 1 - r.idLow.toNat := by
  have hne : r.idHigh.toNat ≠ 2 ^ 32 - 1 := fun h ↦ hmax (UInt32.toNat_inj.mp h)
  have hlow := r.idLow.toNat_lt
  have hhigh := r.idHigh.toNat_lt
  have hone : (1 : UInt32).toNat = 1 := rfl
  rw [IdRange.counted, UInt32.toNat_add, UInt32.toNat_sub, hone]
  split
  · omega
  · omega

/-! ## The array -/

/-- As long as there are indices for them, the ids are written one after the other. -/
theorem foldl_put (written ids : List UInt32) (h : written.length + ids.length ≤ 2 ^ 32) :
    ids.foldl (Slots.put (written.length + ids.length))
        ⟨written.map some ++ List.replicate ids.length none, UInt32.ofNat written.length⟩
      = ⟨(written ++ ids).map some, UInt32.ofNat (written.length + ids.length)⟩ := by
  induction ids generalizing written with
  | nil => simp
  | cons id ids ih =>
    rw [length_cons] at h
    have hindex : (UInt32.ofNat written.length).toNat = written.length :=
      UInt32.toNat_ofNat_of_lt' (by simp [UInt32.size]; omega)
    have hnext : UInt32.ofNat written.length + 1 = UInt32.ofNat (written.length + 1) := by
      rw [UInt32.ofNat_add]
      rfl
    have hset : (written.map some ++ List.replicate (ids.length + 1) none).set written.length
        (some id) = (written ++ [id]).map some ++ List.replicate ids.length none := by
      rw [set_append_right _ _ (by simp), length_map, Nat.sub_self, replicate_succ,
        set_cons_zero, map_append, append_assoc]
      rfl
    have hput : Slots.put (written.length + (ids.length + 1))
        ⟨written.map some ++ List.replicate (ids.length + 1) none, UInt32.ofNat written.length⟩ id
        = ⟨(written ++ [id]).map some ++ List.replicate ids.length none,
          UInt32.ofNat (written.length + 1)⟩ := by
      rw [Slots.put, if_pos (by dsimp only; omega)]
      dsimp only
      rw [hindex, hset, hnext]
    have hrest := ih (written ++ [id]) (by simp; omega)
    rw [length_append, length_singleton, Nat.add_assoc, Nat.add_comm 1] at hrest
    rw [length_cons, foldl_cons, hput, hrest, ← append_cons]

/-- There are no indices for more than 2^32 slots. -/
theorem getElem?_foldl_put {i : ℕ} (hi : 2 ^ 32 ≤ i) (ids : List UInt32) (s : Slots) :
    (ids.foldl (Slots.put count) s).hwIds[i]? = s.hwIds[i]? := by
  induction ids generalizing s with
  | nil => rfl
  | cons id ids ih =>
    rw [foldl_cons, ih, Slots.put]
    split
    · have hlt := s.index.toNat_lt
      exact getElem?_set_ne (by omega)
    · rfl

/-- The array holds the ids, and there is no call without any. -/
def IsExpanded (l : IdLists) : Prop :=
  ∃ fuel, expandIds fuel l
    = some (if l.ids = [] then none else some (l.ids.length, l.ids.map some))

theorem foldl_put_ids (l : IdLists) (count : ℕ) (s : Slots) :
    (l.ranges.flatMap fun r ↦ idsFrom r.idLow r.idHigh).foldl (Slots.put count)
      (l.discrete.foldl (Slots.put count) s) = l.ids.foldl (Slots.put count) s :=
  foldl_append.symm

theorem sublist_ids (hr : r ∈ l.ranges) : (idsFrom r.idLow r.idHigh).Sublist l.ids := by
  have hsub : (idsFrom r.idLow r.idHigh).Sublist
      (l.ranges.map fun r ↦ idsFrom r.idLow r.idHigh).flatten :=
    sublist_flatten_of_mem (mem_map_of_mem hr)
  rw [IdLists.ids, flatMap_def]
  exact hsub.trans (sublist_append_right _ _)

theorem count_eq_length (h : Countable l) : l.count = l.ids.length := by
  have hranges : l.ranges.map IdRange.counted
      = l.ranges.map fun r ↦ r.idHigh.toNat + 1 - r.idLow.toNat :=
    map_congr_left fun r hr ↦ by rw [counted_eq (h.1 r hr).1, if_pos (h.1 r hr).2]
  rw [count_eq, length_ids, hranges]

theorem isExpanded_of_countable (h : Countable l) : IsExpanded l := by
  have hcount := count_eq_length h
  have hlen : l.ids.length ≤ 2 ^ 32 := length_ids l ▸ h.2
  refine ⟨l.ids.length + 1, ?_⟩
  have hfuel : ∀ r ∈ l.ranges, (idsFrom r.idLow r.idHigh).length < l.ids.length + 1 := by
    intro r hr
    exact Nat.lt_succ_of_le (sublist_ids hr).length_le
  have hput := foldl_put [] l.ids (by simpa using hlen)
  rw [length_nil, Nat.zero_add, map_nil, nil_append, nil_append] at hput
  rw [expandIds_eq, foldlM_writeRange_eq fun r hr ↦ (h.1 r hr).1, if_pos hfuel, foldl_put_ids,
    hcount]
  by_cases hnil : l.ids = []
  · rw [if_pos hnil, if_pos (by rw [hnil]; rfl)]
  · rw [if_neg hnil, if_neg fun hzero ↦ hnil (length_eq_zero_iff.mp hzero)]
    exact congrArg (fun s : Slots ↦ some (some (l.ids.length, s.hwIds))) hput

/-- A range that ends at the greatest id is not counted, or written without end. -/
theorem ne_max_of_isExpanded (h : IsExpanded l) (hr : r ∈ l.ranges) : r.idHigh ≠ 0xFFFFFFFF := by
  intro hmax
  obtain ⟨fuel, hfuel⟩ := h
  rw [expandIds_eq, foldlM_writeRange_max hr hmax] at hfuel
  split at hfuel
  · have hne : l.ids ≠ [] := by
      intro hnil
      have hlen := (sublist_ids hr).length_le
      have hlow := r.idLow.toNat_lt
      have hhigh : (0xFFFFFFFF : UInt32).toNat = 2 ^ 32 - 1 := rfl
      rw [hnil, length_idsFrom, hmax, hhigh, length_nil] at hlen
      omega
    rw [if_neg hne] at hfuel
    cases hfuel
  · cases hfuel

theorem le_counted (hmax : r.idHigh ≠ 0xFFFFFFFF) :
    r.idHigh.toNat + 1 - r.idLow.toNat ≤ r.counted := by
  rw [counted_eq hmax]
  split <;> omega

/-- If the event is expanded, its ids are counted right. -/
theorem count_eq_of_isExpanded {fuel : ℕ} (hmax : ∀ r ∈ l.ranges, r.idHigh ≠ 0xFFFFFFFF)
    (hfuel : expandIds fuel l
      = some (if l.ids = [] then none else some (l.ids.length, l.ids.map some))) :
    l.count = l.ids.length ∧ (l.count ≠ 0 →
      (l.ids.foldl (Slots.put l.count) ⟨List.replicate l.count none, 0⟩).hwIds
        = l.ids.map some) := by
  have hle : l.ids.length ≤ l.count := by
    rw [length_ids, count_eq]
    exact Nat.add_le_add_left (sum_le_sum fun r hr ↦ le_counted (hmax r hr)) _
  rw [expandIds_eq, foldlM_writeRange_eq hmax] at hfuel
  split at hfuel
  · next hzero => exact ⟨by omega, fun h ↦ absurd hzero h⟩
  · split at hfuel
    · rw [foldl_put_ids] at hfuel
      split at hfuel
      · cases hfuel
      · obtain ⟨hcount, hids⟩ := Prod.mk.inj (Option.some.inj (Option.some.inj hfuel))
        exact ⟨hcount, fun _ ↦ hids⟩
    · cases hfuel

theorem countable_of_isExpanded (h : IsExpanded l) : Countable l := by
  have hmax : ∀ r ∈ l.ranges, r.idHigh ≠ 0xFFFFFFFF := fun r hr ↦ ne_max_of_isExpanded h hr
  obtain ⟨fuel, hfuel⟩ := h
  obtain ⟨hcount, hids⟩ := count_eq_of_isExpanded hmax hfuel
  refine ⟨fun r hr ↦ ⟨hmax r hr, ?_⟩, ?_⟩
  · -- otherwise the range is counted as almost all ids
    by_contra hlow
    have hlt : r.idHigh.toNat + 1 - r.idLow.toNat < r.counted := by
      have hlt := r.idLow.toNat_lt
      rw [counted_eq (hmax r hr), if_neg hlow]
      omega
    have hsum := sum_lt_sum (l := l.ranges) (fun r ↦ r.idHigh.toNat + 1 - r.idLow.toNat)
      IdRange.counted (fun r hr ↦ le_counted (hmax r hr)) ⟨r, hr, hlt⟩
    rw [length_ids, count_eq] at hcount
    omega
  · -- otherwise there is a slot that no index reaches
    rw [← length_ids]
    by_contra hmany
    rw [Nat.not_le, ← hcount] at hmany
    have hslot := congrArg (·[2 ^ 32]?) (hids (by omega))
    rw [getElem?_foldl_put (Nat.le_refl _), getElem?_replicate, if_pos hmany,
      getElem?_map] at hslot
    cases hid : l.ids[2 ^ 32]? with
    | none =>
      rw [hid] at hslot
      cases hslot
    | some id =>
      rw [hid] at hslot
      cases hslot

theorem handle_eq (fuel : ℕ) (timestamp : ℤ) (ind : BatchedInd ℓ) :
    ind.handle fuel timestamp = (expandIds fuel ind.lists).map fun call ↦ call.map fun ids ↦
      ⟨ids.1, ids.2, ind.location, ind.type, timestamp⟩ := by
  cases ind <;> rfl

/-- **When the event names its geofences.** A batched event leads to a call with exactly its ids, or
to none without any, if none of its valid ranges ends at the greatest id or more than one below its
beginning, and there are no more than 2^32 ids. -/
theorem isNamed_iff (timestamp : ℤ) (ind : BatchedInd ℓ) :
    ind.IsNamed timestamp ↔ Countable ind.lists := by
  have hexpanded : ind.IsNamed timestamp ↔ IsExpanded ind.lists := by
    refine exists_congr fun fuel ↦ ?_
    rw [handle_eq]
    have hcall : Function.Injective fun ids : ℕ × List (Option UInt32) ↦
        GeofenceBreach.mk ids.1 ids.2 ind.location ind.type timestamp := fun ids ids' heq ↦ by
      obtain ⟨hcount, hids, -⟩ := GeofenceBreach.mk.inj heq
      exact Prod.ext hcount hids
    constructor
    · intro h
      refine Option.map_injective (Option.map_injective hcall) (h.trans ?_)
      split <;> rfl
    · intro h
      rw [h]
      split <;> rfl
  exact hexpanded.trans ⟨countable_of_isExpanded, isExpanded_of_countable⟩

/-- The list of the greatest id alone, as a range -/
def greatestId : IdLists :=
  ⟨0, [], 1, [⟨0xFFFFFFFF, 0xFFFFFFFF⟩], by decide, by decide⟩

/-- A range of the greatest id alone is written without end. -/
theorem not_isNamed_greatest : ¬ (BatchedInd.breach ⟨greatestId, 1, ()⟩).IsNamed 0 := by
  rintro ⟨fuel, hfuel⟩
  have hcount : greatestId.count ≠ 0 := by decide
  have hmem : ⟨0xFFFFFFFF, 0xFFFFFFFF⟩ ∈ greatestId.ranges := by decide
  have hlists : (BatchedInd.breach ⟨greatestId, 1, ()⟩).lists = greatestId := rfl
  rw [handle_eq, hlists, expandIds_eq, if_neg hcount, foldlM_writeRange_max hmem rfl] at hfuel
  cases hfuel

end

end MataDevice.GeofenceEvents
