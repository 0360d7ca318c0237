import MataDevice.Config.Read

/-!
# What a buffer updates

The updater counts down from one less than the length of the table, and what it returns is the
number of the lines it has handled. So the whole buffer is applied, and the records that are updated
are counted, only if every one of these lines sets a parameter of its own and the lines after them
are for no other ones. A table of one parameter is never updated.
-/

namespace MataDevice.Config

open List
open MataDevice.Format (bytes)
open MataDevice.Numerals (strtol)
open MataDevice.Countdown

section

variable {F : Type} (atof : List UInt8 → F) (zero : F) {table : List (LocParam F)}

/-- The names of the parameters that the lines set, one for each line that sets one -/
def namesSet (table : List (LocParam F)) (strs : List (List UInt8)) : List (List UInt8) :=
  ((itemsOf atof zero strs).filter (hits table)).map ConfigValue.paramName

/-- How many records of the table are for one of the lines -/
def recordsSet (table : List (LocParam F)) (strs : List (List UInt8)) : ℕ :=
  table.countP fun entry ↦ (itemsOf atof zero strs).any entry.takes

theorem length_namesSet (table : List (LocParam F)) (strs : List (List UInt8)) :
    (namesSet atof zero table strs).length = strs.countP (counts atof zero table) := by
  rw [namesSet, length_map, ← countP_eq_length_filter]
  induction strs with
  | nil => rfl
  | cons str strs ih =>
    rw [itemsOf_cons, countP_append, ih, countP_cons, Nat.add_comm, counts]
    cases configValue atof zero str with
    | none => rfl
    | some value =>
      rw [Option.toList_some, countP_singleton, Option.any_some]

section

variable (hnodup : (table.map LocParam.paramName).Nodup)
include hnodup

theorem takes_iff_of_mem {entry : LocParam F} (h : entry ∈ table) (value : ConfigValue F) :
    entry.takes value = true ↔ hits table value = true ∧ entry.paramName = value.paramName := by
  have hname : ∀ {entry : LocParam F}, entry.takes value = true →
      entry.paramName = value.paramName := by
    intro entry htakes
    rw [LocParam.takes, Bool.and_eq_true, Bool.and_eq_true, decide_eq_true_iff] at htakes
    exact htakes.1.2
  refine ⟨fun htakes ↦ ⟨any_eq_true.mpr ⟨entry, h, htakes⟩, hname htakes⟩, ?_⟩
  rintro ⟨hhits, heq⟩
  obtain ⟨entry', hmem, htakes⟩ := any_eq_true.mp hhits
  rwa [inj_on_of_nodup_map hnodup h hmem (heq.trans (hname htakes).symm)]

/-- Each name is that of one record. -/
theorem recordsSet_eq (strs : List (List UInt8)) :
    recordsSet atof zero table strs = (namesSet atof zero table strs).dedup.length := by
  have hset : List.Perm ((table.filter fun entry ↦ (itemsOf atof zero strs).any entry.takes).map
      LocParam.paramName) (namesSet atof zero table strs).dedup := by
    refine (perm_ext_iff_of_nodup (hnodup.sublist (filter_sublist.map _))
      (nodup_dedup _)).mpr fun name ↦ ?_
    rw [mem_dedup, namesSet, mem_map, mem_map]
    constructor
    · rintro ⟨entry, hentry, rfl⟩
      obtain ⟨hmem, hany⟩ := mem_filter.mp hentry
      obtain ⟨value, hvalue, htakes⟩ := any_eq_true.mp hany
      obtain ⟨hhits, hname⟩ := (takes_iff_of_mem hnodup hmem value).mp htakes
      exact ⟨value, mem_filter.mpr ⟨hvalue, hhits⟩, hname.symm⟩
    · rintro ⟨value, hvalue, rfl⟩
      obtain ⟨hvalue, hhits⟩ := mem_filter.mp hvalue
      obtain ⟨entry, hmem, htakes⟩ := any_eq_true.mp hhits
      exact ⟨entry, mem_filter.mpr ⟨hmem, any_eq_true.mpr ⟨value, hvalue, htakes⟩⟩,
        ((takes_iff_of_mem hnodup hmem value).mp htakes).2⟩
  rw [recordsSet, countP_eq_length_filter, ← hset.length_eq, length_map]

/-- There is a record for each of the lines if each line sets one that no other line sets. -/
theorem length_eq_recordsSet_iff (strs : List (List UInt8)) :
    strs.length = recordsSet atof zero table strs ↔
      (∀ str ∈ strs, counts atof zero table str = true) ∧
        (namesSet atof zero table strs).Nodup := by
  have hdedup := (dedup_sublist (namesSet atof zero table strs)).length_le
  have hcount := countP_le_length (p := counts atof zero table) (l := strs)
  rw [← length_namesSet] at hcount
  rw [recordsSet_eq atof zero hnodup]
  constructor
  · intro hlength
    refine ⟨countP_eq_length.mp ?_, ?_⟩
    · rw [← length_namesSet]
      omega
    · rw [← dedup_eq_self]
      exact (dedup_sublist _).eq_of_length (by omega)
  · rintro ⟨hall, hnames⟩
    rw [dedup_eq_self.mpr hnames, length_namesSet, countP_eq_length.mpr hall]

end

/-- A line names the parameter, and gives it a value. -/
def IsNamedBy (entry : LocParam F) (strs : List (List UInt8)) : Prop :=
  ∃ value ∈ itemsOf atof zero strs, entry.paramName = value.paramName

/-- One of the lines sets the parameter. -/
def IsSetBy (entry : LocParam F) (strs : List (List UInt8)) : Prop :=
  ∃ value ∈ itemsOf atof zero strs, entry.takes value = true

theorem isNamedBy_append (entry : LocParam F) (strs strs' : List (List UInt8)) :
    IsNamedBy atof zero entry (strs ++ strs') ↔
      IsNamedBy atof zero entry strs ∨ IsNamedBy atof zero entry strs' := by
  rw [IsNamedBy, itemsOf, filterMap_append]
  simp only [mem_append, or_and_right, exists_or]
  rfl

/-- A parameter named on a line that sets one is the one that is set. -/
theorem isSetBy_of_counts (hnodup : (table.map LocParam.paramName).Nodup)
    {strs : List (List UInt8)} (h : ∀ str ∈ strs, counts atof zero table str = true)
    {entry : LocParam F} (hmem : entry ∈ table) (hnamed : IsNamedBy atof zero entry strs) :
    IsSetBy atof zero entry strs := by
  obtain ⟨value, hvalue, hname⟩ := hnamed
  refine ⟨value, hvalue, (takes_iff_of_mem hnodup hmem value).mpr ⟨?_, hname⟩⟩
  obtain ⟨str, hstr, hitem⟩ := mem_filterMap.mp hvalue
  have hcounts := h str hstr
  rwa [counts, hitem, Option.any_some] at hcounts

/-- **What a buffer updates.** The lines handled are those up to the one that is the last to be
counted down from one less than the length of the table, and their number is returned. Every
parameter named in the buffer is set by one of them, and the number is that of the records updated,
just if the first lines, one less than the table is long, set different parameters, and set all that
the buffer names. -/
theorem loc_update_conf_long_iff (n : ℕ) {confData : List UInt8} (hdata : confData ≠ [])
    (htable : table ≠ []) (hnodup : (table.map LocParam.paramName).Nodup) :
    let strs := tokens (cString confData)
    let handled := taken (counts atof zero table) (table.length - 1) strs
    let first := strs.take (table.length - 1)
    locUpdateConfLong atof zero confData table n =
        ((handled.length : ℤ), table.map (LocParam.putAll n (itemsOf atof zero handled))) ∧
      (((∀ entry ∈ table, IsNamedBy atof zero entry strs → IsSetBy atof zero entry handled) ∧
          (locUpdateConfLong atof zero confData table n).1 = recordsSet atof zero table handled) ↔
        (∀ str ∈ first, counts atof zero table str = true) ∧
          (namesSet atof zero table first).Nodup ∧
          ∀ entry ∈ table, IsNamedBy atof zero entry (strs.drop (table.length - 1)) →
            IsSetBy atof zero entry first) := by
  intro strs handled first
  have hupdate : locUpdateConfLong atof zero confData table n =
      ((handled.length : ℤ), table.map (LocParam.putAll n (itemsOf atof zero handled))) := by
    have hloop := updateLoop_eq atof zero n (table.length - 1)
      (Nat.lt_succ_self (cString confData).length) hnodup
    rw [locUpdateConfLong, if_neg (not_or_intro hdata htable)]
    exact congrArg (fun updated : ℕ × List (LocParam F) ↦ ((updated.1 : ℤ), updated.2)) hloop
  have hnamed (entry : LocParam F) : IsNamedBy atof zero entry strs ↔
      IsNamedBy atof zero entry first ∨
        IsNamedBy atof zero entry (strs.drop (table.length - 1)) := by
    rw [← isNamedBy_append, take_append_drop]
  refine ⟨hupdate, ?_⟩
  rw [hupdate]
  dsimp only
  rw [Nat.cast_inj]
  constructor
  · rintro ⟨hset, hlength⟩
    obtain ⟨hall, hnames⟩ := (length_eq_recordsSet_iff atof zero hnodup handled).mp hlength
    have heq : handled = first := taken_eq_take_of_all hall
    rw [heq] at hset hall hnames
    exact ⟨hall, hnames, fun entry hmem hlater ↦
      hset entry hmem ((hnamed entry).mpr (Or.inr hlater))⟩
  · rintro ⟨hall, hnames, hlater⟩
    have heq : handled = first := taken_eq_take hall
    rw [heq]
    refine ⟨fun entry hmem hentry ↦ ?_,
      (length_eq_recordsSet_iff atof zero hnodup first).mpr ⟨hall, hnames⟩⟩
    exact ((hnamed entry).mp hentry).elim (isSetBy_of_counts atof zero hnodup hall hmem)
      (hlater entry hmem)

end

/-- Two of three parameters, each on a line of its own -/
theorem loc_update_conf_long_iff_twoLines :
    (locUpdateConfLong (strtol 10) 0 (bytes "A=1\nB=2".toList) (sampleParam "C" :: sampleTable)
      172).1 = 2 := by
  have hnodup : ((sampleParam "C" :: sampleTable).map LocParam.paramName).Nodup := by decide
  obtain ⟨hupdate, -⟩ := loc_update_conf_long_iff (strtol 10) 0 172
    (show bytes "A=1\nB=2".toList ≠ [] by decide)
    (cons_ne_nil (sampleParam "C") sampleTable) hnodup
  rw [hupdate]
  decide +kernel

/-- A table of one parameter -/
theorem not_loc_update_conf_long_oneParam :
    locUpdateConfLong (strtol 10) 0 (bytes "A=1".toList) [sampleParam "A"] 172 =
        (0, [sampleParam "A"]) ∧
      ¬ ∀ entry ∈ [sampleParam "A"],
        IsNamedBy (strtol 10) 0 entry (tokens (cString (bytes "A=1".toList))) →
        ∃ entry' ∈ (locUpdateConfLong (strtol 10) 0 (bytes "A=1".toList) [sampleParam "A"] 172).2,
          entry'.paramName = entry.paramName ∧ entry'.paramSet = some 1 := by
  refine ⟨by decide +kernel, fun h ↦ ?_⟩
  obtain ⟨entry', hmem, -, hset⟩ := h (sampleParam "A") mem_cons_self
    ⟨⟨bytes "A".toList, bytes "1".toList, 1, 1⟩, by decide +kernel, rfl⟩
  have hupdate : (locUpdateConfLong (strtol 10) 0 (bytes "A=1".toList) [sampleParam "A"] 172).2 =
      [sampleParam "A"] := by
    decide +kernel
  rw [hupdate, mem_singleton] at hmem
  subst hmem
  cases hset

end MataDevice.Config
