import MataDevice.Config.Lines

/-!
# What a configuration file sets

The reader stops after as many lines that set a parameter as the table has parameters. Each
parameter ends up with the value of the last line with its name among those handled. A name that
comes twice in a file uses up the line of another one: a parameter that is named only after that is
not set.
-/

namespace MataDevice.Config

open List
open MataDevice.Format (bytes)
open MataDevice.Numerals (isSpace strtol)
open MataDevice.Countdown

section

variable {F : Type}

/-- What an item is for a parameter of a type -/
def ConfigValue.var (value : ConfigValue F) (paramType : Char) : ParamVar F :=
  if paramType = 's' then
    .string (if value.paramStrValue = bytes "NULL".toList then []
      else value.paramStrValue)
  else if paramType = 'n' then .number value.paramIntValue
  else .double value.paramDoubleValue

/-- A parameter after items have been read: it has the value of the last one that it takes, and its
validity bit says whether there was one. -/
structure IsReadFrom (items : List (ConfigValue F)) (entry entry' : LocParam F) : Prop where
  paramName : entry'.paramName = entry.paramName
  paramType : entry'.paramType = entry.paramType
  present : ∀ value, items.reverse.find? entry.takes = some value →
    entry'.paramPtr = some (value.var entry.paramType) ∧
      entry'.paramSet = entry.paramSet.map fun _ ↦ 1
  absent : items.reverse.find? entry.takes = none →
    entry'.paramPtr = entry.paramPtr ∧ entry'.paramSet = entry.paramSet.map fun _ ↦ 0

variable {n : ℕ} {value : ConfigValue F} {entry : LocParam F} {table : List (LocParam F)}

theorem paramPtr_put (hlength : value.paramStrValue.length < n) (h : entry.takes value = true) :
    (entry.put n value).paramPtr = some (value.var entry.paramType) := by
  obtain ⟨name, ptr, set, type⟩ := entry
  rw [LocParam.takes, Bool.and_eq_true, Bool.and_eq_true, decide_eq_true_iff] at h
  obtain ⟨⟨hptr, hname⟩, htype⟩ := h
  obtain ⟨var, rfl⟩ := Option.isSome_iff_exists.mp hptr
  have htake : value.paramStrValue.take (n - 1) = value.paramStrValue :=
    take_of_length_le (by omega)
  rw [LocParam.put, locSetConfigEntry]
  dsimp only at htype hname ⊢
  rw [if_pos hname, ConfigValue.var, htake, if_neg (show n ≠ 0 by omega)]
  generalize bytes "NULL".toList = null
  split
  · by_cases hnull : value.paramStrValue = null
    · simp [hnull]
    · simp [hnull]
  · simp
  · simp
  · next hs hn hf =>
    have hs' : type ≠ 's' := hs
    have hn' : type ≠ 'n' := hn
    have hf' : type ≠ 'f' := hf
    simp [hs', hn', hf'] at htype

theorem isReadFrom_putAll {items : List (ConfigValue F)}
    (hlength : ∀ value ∈ items, value.paramStrValue.length < n) (entry : LocParam F) :
    IsReadFrom items entry ((clearSet entry).putAll n items) := by
  induction items using List.reverseRecOn with
  | nil => exact ⟨rfl, rfl, fun _ h ↦ (Option.some_ne_none _ h.symm).elim, fun _ ↦ ⟨rfl, rfl⟩⟩
  | append_singleton items value ih =>
    have hread := ih fun value hmem ↦ hlength value (mem_append_left _ hmem)
    have htakes : ((clearSet entry).putAll n items).takes = entry.takes :=
      takes_putAll items (clearSet entry)
    obtain ⟨-, hname, htype, -, hskip, hset⟩ :=
      locSetConfigEntry_cases n value ((clearSet entry).putAll n items)
    rw [htakes] at hskip hset
    have hput : (clearSet entry).putAll n (items ++ [value]) =
        ((clearSet entry).putAll n items).put n value := putAll_append _ _ _
    rw [hput]
    have hfind : (items ++ [value]).reverse.find? entry.takes =
        if entry.takes value then some value else items.reverse.find? entry.takes := by
      rw [reverse_append, reverse_singleton, singleton_append, find?_cons]
      cases entry.takes value <;> rfl
    cases htake : entry.takes value with
    | false =>
      rw [hskip htake]
      rw [htake, if_neg Bool.false_ne_true] at hfind
      exact ⟨hread.paramName, hread.paramType, fun value' h ↦ hread.present value' (hfind ▸ h),
        fun h ↦ hread.absent (hfind ▸ h)⟩
    | true =>
      rw [htake, if_pos rfl] at hfind
      have hbit : ((clearSet entry).putAll n items).paramSet.map (fun _ ↦ (1 : UInt8)) =
          entry.paramSet.map fun _ ↦ 1 := by
        cases hlast : items.reverse.find? entry.takes with
        | none => rw [(hread.absent hlast).2, Option.map_map]; rfl
        | some value' => rw [(hread.present value' hlast).2, Option.map_map]; rfl
      refine ⟨hname.trans hread.paramName, htype.trans hread.paramType, fun value' h ↦ ?_,
        fun h ↦ ?_⟩
      · obtain rfl := Option.some_inj.mp (hfind.symm.trans h)
        have hptr := paramPtr_put (hlength value (mem_append_right _ mem_cons_self))
          ((congrFun htakes value).trans htake)
        rw [hread.paramType] at hptr
        exact ⟨hptr, (hset htake).trans hbit⟩
      · cases hfind.symm.trans h

/-- Only the items that the parameter takes matter. -/
theorem IsReadFrom.congr {items items' : List (ConfigValue F)} {entry' : LocParam F}
    (heq : items.filter entry.takes = items'.filter entry.takes)
    (h : IsReadFrom items entry entry') : IsReadFrom items' entry entry' := by
  have hfind : items.reverse.find? entry.takes = items'.reverse.find? entry.takes := by
    rw [← head?_filter, ← head?_filter, filter_reverse, heq, filter_reverse]
  exact ⟨h.paramName, h.paramType, fun value hvalue ↦ h.present value (hfind.trans hvalue),
    fun hvalue ↦ h.absent (hfind.trans hvalue)⟩

section

variable (atof : List UInt8 → F) (zero : F)

/-- Lines that no parameter of the table is for do not matter to any of them. -/
theorem filter_itemsOf (h : entry ∈ table) (strs : List (List UInt8)) :
    (itemsOf atof zero (strs.filter (counts atof zero table))).filter entry.takes =
      (itemsOf atof zero strs).filter entry.takes := by
  induction strs with
  | nil => rfl
  | cons str strs ih =>
    cases hcounts : counts atof zero table str with
    | true =>
      rw [filter_cons_of_pos hcounts, itemsOf_cons, itemsOf_cons, filter_append,
        filter_append, ih]
    | false =>
      rw [filter_cons_of_neg (by rw [hcounts]; exact Bool.false_ne_true), ih, itemsOf_cons,
        filter_append]
      rw [counts] at hcounts
      cases hvalue : configValue atof zero str with
      | none => rfl
      | some value =>
        rw [hvalue, Option.any_some] at hcounts
        have htakes : entry.takes value = false := by
          rw [← Bool.not_eq_true]
          intro htakes
          exact Bool.false_ne_true (hcounts.symm.trans (any_eq_true.mpr ⟨entry, h, htakes⟩))
        rw [Option.toList_some, filter_cons_of_neg (by rw [htakes]; exact Bool.false_ne_true)]
        rfl

variable {atof zero}

theorem length_locUtilTrimSpace_le (str : List UInt8) :
    (locUtilTrimSpace str).length ≤ str.length := by
  rw [locUtilTrimSpace]
  split
  · exact le_rfl
  · refine le_trans ?_ (dropWhile_sublist isSpace).length_le
    exact (List.rdropWhile_prefix _ _).length_le

/-- No value is longer than its line. -/
theorem length_configValue_le {buf : List UInt8} {value : ConfigValue F}
    (h : configValue atof zero buf = some value) : value.paramStrValue.length ≤ buf.length := by
  rw [configValue] at h
  cases htok : strtok 61 buf with
  | none =>
    rw [htok] at h
    cases h
  | some tok =>
    obtain ⟨paramName, lasts⟩ := tok
    have htrim := (length_locUtilTrimSpace_le lasts).trans (length_strtok_lt htok).le
    rw [htok] at h
    dsimp only at h
    split_ifs at h
    · obtain rfl := Option.some_inj.mp h
      exact htrim
    · obtain rfl := Option.some_inj.mp h
      exact htrim

end

theorem hits_map_clearSet (table : List (LocParam F)) : hits (table.map clearSet) = hits table :=
  hits_map (fun entry ↦ show (clearSet entry).takes = entry.takes from rfl) table

variable (atof : List UInt8 → F) (zero : F)

theorem counts_map_clearSet (table : List (LocParam F)) :
    counts atof zero (table.map clearSet) = counts atof zero table := by
  funext str
  rw [counts, hits_map_clearSet, counts]

/-- **What a configuration file sets.** In a table of distinct names every parameter gets the value
of the last item with its name among those on the lines up to the one that is the last to be
counted. If no more lines than the table has parameters are for one of them, these are all lines of
the file. -/
theorem loc_read_conf_long_spec (hn : 2 ≤ n) (hnodup : (table.map LocParam.paramName).Nodup)
    (text : List UInt8) (locParamTable : List (LocParam F)) :
    ∃ table' params,
      locReadConfLong atof zero (some text) (some table) locParamTable n =
        some (some table', params) ∧
      List.Forall₂ (IsReadFrom (itemsOf atof zero
        (taken (counts atof zero table) table.length (pieces n text)))) table table' ∧
      ((∀ line ∈ lines text, line.length < n) → pieces n text = (lines text).map cString) ∧
      ((pieces n text).countP (counts atof zero table) ≤ table.length →
        List.Forall₂ (IsReadFrom (itemsOf atof zero (pieces n text))) table table') := by
  have hnodup' : ((table.map clearSet).map LocParam.paramName).Nodup := by
    rw [map_map]
    exact hnodup
  obtain ⟨rest, hread, -⟩ := exists_readLoop_eq atof zero hn table.length
    (Nat.lt_succ_self text.length) hnodup'
  obtain ⟨params, hparams⟩ : ∃ params,
      locReadConfRLong atof zero text locParamTable n = some params :=
    exists_readLoop atof zero hn locParamTable.length (Nat.lt_succ_self text.length) _
  rw [counts_map_clearSet, map_map] at hread
  have hread' : locReadConfRLong atof zero text table n = some (rest, _) := hread
  have htable : List.Forall₂ (IsReadFrom (itemsOf atof zero
      (taken (counts atof zero table) table.length (pieces n text)))) table
      (table.map (LocParam.putAll n (itemsOf atof zero
        (taken (counts atof zero table) table.length (pieces n text))) ∘ clearSet)) := by
    refine forall₂_map_right_iff.mpr (forall₂_same.mpr fun entry _ ↦
      isReadFrom_putAll (fun value hvalue ↦ ?_) entry)
    obtain ⟨piece, hmem, hvalue⟩ := mem_filterMap.mp hvalue
    exact (length_configValue_le hvalue).trans_lt
      (length_lt_of_mem_pieces hn (mem_of_mem_taken hmem))
  refine ⟨_, params.2, ?_, htable, pieces_eq_lines hn, fun hcount ↦ ?_⟩
  · unfold locReadConfLong
    cases table with
    | nil =>
      dsimp only
      rw [hparams]
      rfl
    | cons entry table =>
      dsimp only
      rw [hread', hparams]
      rfl
  · refine forall₂_map_right_iff.mpr (forall₂_same.mpr fun entry hmem ↦ ?_)
    refine IsReadFrom.congr ?_
      ((forall₂_same.mp (forall₂_map_right_iff.mp htable)) entry hmem)
    rw [← filter_itemsOf atof zero hmem, filter_taken hcount, filter_itemsOf atof zero hmem]

end

/-! ## A name that comes twice -/

/-- A number that has not been read -/
def sampleParam (name : String) : LocParam ℤ :=
  ⟨bytes name.toList, some (.number 0), some 0, 'n'⟩

def sampleTable : List (LocParam ℤ) := [sampleParam "A", sampleParam "B"]

/-- The items of a text with lines that fit into the usual buffer -/
def sampleItems (text : String) : List (ConfigValue ℤ) :=
  itemsOf (strtol 10) 0 ((lines (bytes text.toList)).map cString)

/-- Two parameters, each on one line -/
theorem loc_read_conf_long_spec_once :
    ∃ table' params, locReadConfLong (strtol 10) 0 (some (bytes "A=1\nB=0x2\n".toList))
        (some sampleTable) [] 172 = some (some table', params) ∧
      List.Forall₂ (IsReadFrom (sampleItems "A=1\nB=0x2\n")) sampleTable table' := by
  obtain ⟨table', params, hread, -, hpieces, hall⟩ := loc_read_conf_long_spec (strtol 10) 0
    (show 2 ≤ 172 by decide) (show (sampleTable.map LocParam.paramName).Nodup by decide)
    (bytes "A=1\nB=0x2\n".toList) []
  rw [hpieces (by decide)] at hall
  exact ⟨table', params, hread, hall (by decide +kernel)⟩

/-- The second line of a name is counted as that of the other parameter, which is not set. -/
theorem not_loc_read_conf_long_repeated :
    locReadConfLong (strtol 10) 0 (some (bytes "A=1\nA=2\nB=3\n".toList)) (some sampleTable) []
        172 = some (some [⟨bytes "A".toList, some (.number 2), some 1, 'n'⟩,
          ⟨bytes "B".toList, some (.number 0), some 0, 'n'⟩], []) ∧
      ((sampleItems "A=1\nA=2\nB=3\n").any (sampleParam "B").takes) = true := by
  decide +kernel

end MataDevice.Config
