import MataDevice.Config.Processes
import MataDevice.Config.Update

/-!
# The blocks of a process file

A process file is a sequence of blocks, each with the name of a process first and with other
parameters of it, none of them twice. The reader does not look for the name that begins a block: it
reads as many lines that set a parameter as there are parameters. So it stays in step with the
blocks only if each of them has all parameters. A block that lacks one makes it read on into the
next block, and at the end of the file it keeps the values of the block before.

To say where a value comes from, lines are numbered by their blocks.
-/

namespace MataDevice.Config

open List
open MataDevice.Format (bytes)
open MataDevice.Countdown

/-! ## The tables of a run -/

section

variable {F : Type}

/-- A parameter whose variable is zero -/
def LocParam.erase (entry : LocParam F) : LocParam F :=
  { entry with paramPtr := entry.paramPtr.map fun
    | .string _ => .string []
    | .number _ => .number 0
    | .double value => .double value }

/-- The table is `loc_process_conf_parameter_table`, whatever the values are. -/
def IsProcessTable (table : List (LocParam F)) : Prop :=
  table.map LocParam.erase = locProcessConfParameterTable F

theorem isProcessTable_table : IsProcessTable (locProcessConfParameterTable F) := rfl

variable {entry : LocParam F}

theorem exists_eq_of_mem_table (h : entry ∈ locProcessConfParameterTable F) :
    ∃ name, entry = stringParam F name ∨ entry = numberParam F name := by
  simp only [locProcessConfParameterTable, mem_cons, not_mem_nil, or_false] at h
  rcases h with rfl | rfl | rfl | rfl | rfl | rfl | rfl | rfl | rfl | rfl | rfl | rfl
  all_goals first | exact ⟨_, Or.inl rfl⟩ | exact ⟨_, Or.inr rfl⟩

theorem nodup_table :
    ((locProcessConfParameterTable F).map LocParam.paramName).Nodup := by
  have hnames : (locProcessConfParameterTable F).map LocParam.paramName =
      (locProcessConfParameterTable Unit).map LocParam.paramName := rfl
  rw [hnames]
  decide +kernel

variable {table : List (LocParam F)}

/-- A parameter of the table in a run -/
theorem IsProcessTable.cases (h : IsProcessTable table) (hmem : entry ∈ table) :
    (∃ (name : String) (value : List UInt8),
        entry = ⟨bytes name.toList, some (.string value), none, 's'⟩) ∨
      ∃ (name : String) (value : Int32),
        entry = ⟨bytes name.toList, some (.number value), none, 'n'⟩ := by
  have herase : entry.erase ∈ locProcessConfParameterTable F := by
    rw [← h]
    exact mem_map_of_mem hmem
  obtain ⟨name, hname⟩ := exists_eq_of_mem_table herase
  obtain ⟨paramName, ptr, set, type⟩ := entry
  rw [LocParam.erase] at hname
  rcases hname with hname | hname
  · left
    obtain ⟨rfl, hptr, rfl, rfl⟩ := LocParam.mk.inj hname
    cases ptr with
    | none => cases hptr
    | some var =>
      cases var with
      | string value => exact ⟨name, value, rfl⟩
      | number value => cases hptr
      | double value => cases hptr
  · right
    obtain ⟨rfl, hptr, rfl, rfl⟩ := LocParam.mk.inj hname
    cases ptr with
    | none => cases hptr
    | some var =>
      cases var with
      | string value => cases hptr
      | number value => exact ⟨name, value, rfl⟩
      | double value => cases hptr

theorem IsProcessTable.map (h : IsProcessTable table)
    {f : LocParam F → LocParam F} (hf : ∀ entry ∈ table, (f entry).erase = entry.erase) :
    IsProcessTable (table.map f) := by
  rw [IsProcessTable, map_map, ← h]
  exact map_congr_left hf

theorem IsProcessTable.nodup (h : IsProcessTable table) :
    (table.map LocParam.paramName).Nodup := by
  have hnames : table.map LocParam.paramName =
      (table.map LocParam.erase).map LocParam.paramName := by
    rw [map_map]
    rfl
  rw [hnames, h]
  exact nodup_table

theorem takes_erase (entry : LocParam F) : entry.erase.takes = entry.takes := by
  funext value
  obtain ⟨name, ptr, set, type⟩ := entry
  rw [LocParam.takes, LocParam.takes]
  cases ptr <;> rfl

theorem IsProcessTable.hits (h : IsProcessTable table) :
    hits table = hits (locProcessConfParameterTable F) := by
  rw [← h, hits_map takes_erase]

theorem erase_put {n : ℕ} (hn : n ≠ 0) (h : IsProcessTable table) (hmem : entry ∈ table) (value : ConfigValue F) :
    (entry.put n value).erase = entry.erase := by
  rw [LocParam.put, locSetConfigEntry]
  generalize bytes "NULL".toList = null
  rcases h.cases hmem with ⟨name, text, rfl⟩ | ⟨name, number, rfl⟩
  · dsimp only
    split_ifs <;> rfl
  · dsimp only
    split_ifs <;> rfl

theorem IsProcessTable.map_clearSet (h : IsProcessTable table) :
    table.map clearSet = table := by
  refine (map_congr_left fun entry hmem ↦ ?_).trans (map_id table)
  rcases h.cases hmem with ⟨name, text, rfl⟩ | ⟨name, number, rfl⟩
  · rfl
  · rfl

theorem IsProcessTable.length (h : IsProcessTable table) :
    table.length = 12 := by
  rw [← length_map LocParam.erase, h]
  rfl

theorem IsProcessTable.mapStrings (h : IsProcessTable table)
    (f : List UInt8 → List UInt8) (names : List String) :
    IsProcessTable (mapStrings f names table) := by
  refine h.map fun entry hmem ↦ ?_
  split_ifs
  · rcases h.cases hmem with ⟨name, text, rfl⟩ | ⟨name, number, rfl⟩
    · rfl
    · rfl
  · rfl

end

/-! ## A pass over the file -/

section

variable {F : Type} (atof : List UInt8 → F) (zero : F) {table : List (LocParam F)}

/-- The line sets a parameter of a process. -/
def setsSome (str : List UInt8) : Bool := counts atof zero (locProcessConfParameterTable F) str

/-- The parameters after some lines -/
def readLines (strs : List (List UInt8)) (table : List (LocParam F)) : List (LocParam F) :=
  table.map (LocParam.putAll 172 (itemsOf atof zero strs))

theorem IsProcessTable.counts (h : IsProcessTable table) :
    counts atof zero table = setsSome atof zero := by
  funext str
  rw [Config.counts, h.hits, setsSome, Config.counts]

theorem IsProcessTable.erase_putAll (h : IsProcessTable table) {entry : LocParam F}
    (hmem : entry ∈ table) (items : List (ConfigValue F)) :
    (entry.putAll 172 items).erase = entry.erase := by
  induction items generalizing entry table with
  | nil => rfl
  | cons value items ih =>
    have hput : IsProcessTable (table.map (LocParam.put 172 value)) :=
      h.map fun entry hmem ↦ erase_put (by decide) h hmem value
    exact (ih hput (mem_map_of_mem hmem)).trans (erase_put (by decide) h hmem value)

theorem IsProcessTable.readLines (h : IsProcessTable table) (strs : List (List UInt8)) :
    IsProcessTable (readLines atof zero strs table) :=
  h.map fun _ hmem ↦ h.erase_putAll hmem _

theorem putAll_filter (n : ℕ) (items : List (ConfigValue F)) (entry : LocParam F) :
    entry.putAll n (items.filter entry.takes) = entry.putAll n items := by
  induction items generalizing entry with
  | nil => rfl
  | cons value items ih =>
    have hstep : entry.putAll n (value :: items) = (entry.put n value).putAll n items := rfl
    have htakes : (entry.put n value).takes = entry.takes :=
      funext fun value' ↦ takes_put n value value' entry
    cases htake : entry.takes value with
    | true =>
      rw [filter_cons_of_pos htake, hstep, ← ih, htakes]
      rfl
    | false =>
      rw [filter_cons_of_neg (by rw [htake]; exact Bool.false_ne_true), hstep,
        put_of_not n htake, ih]

/-- Only the lines that set a parameter matter. -/
theorem readLines_congr {strs strs' : List (List UInt8)} (h : IsProcessTable table)
    (heq : strs.filter (setsSome atof zero) = strs'.filter (setsSome atof zero)) :
    readLines atof zero strs table = readLines atof zero strs' table := by
  refine map_congr_left fun entry hmem ↦ ?_
  rw [← putAll_filter, ← filter_itemsOf atof zero hmem, h.counts, heq, ← h.counts atof zero,
    filter_itemsOf atof zero hmem, putAll_filter]

/-- What a parameter was does not matter when a line sets it. -/
theorem putAll_erase {strs : List (List UInt8)} (hlength : ∀ str ∈ strs, str.length < 172)
    (h : IsProcessTable table) {entry : LocParam F} (hmem : entry ∈ table)
    (hset : IsSetBy atof zero entry strs) :
    entry.putAll 172 (itemsOf atof zero strs) =
      entry.erase.putAll 172 (itemsOf atof zero strs) := by
  have hitems : ∀ value ∈ itemsOf atof zero strs, value.paramStrValue.length < 172 := by
    intro value hvalue
    obtain ⟨str, hstr, hvalue⟩ := mem_filterMap.mp hvalue
    exact (length_configValue_le hvalue).trans_lt (hlength str hstr)
  have hclear : clearSet entry = entry ∧ clearSet entry.erase = entry.erase := by
    rcases h.cases hmem with ⟨name, text, rfl⟩ | ⟨name, number, rfl⟩
    · exact ⟨rfl, rfl⟩
    · exact ⟨rfl, rfl⟩
  have hread := isReadFrom_putAll hitems entry
  have hread' := isReadFrom_putAll hitems entry.erase
  rw [hclear.1] at hread
  rw [hclear.2] at hread'
  obtain ⟨value, hvalue, htakes⟩ := hset
  obtain ⟨last, hlast⟩ := Option.isSome_iff_exists.mp (find?_isSome.mpr
    ⟨value, mem_reverse.mpr hvalue, htakes⟩)
  obtain ⟨hptr, hbit⟩ := hread.present last hlast
  obtain ⟨hptr', hbit'⟩ := hread'.present last (by rw [takes_erase]; exact hlast)
  have hext : ∀ {entry entry' : LocParam F}, entry.paramName = entry'.paramName →
      entry.paramPtr = entry'.paramPtr → entry.paramSet = entry'.paramSet →
      entry.paramType = entry'.paramType → entry = entry' := by
    rintro ⟨⟩ ⟨⟩ rfl rfl rfl rfl
    rfl
  exact hext (hread.paramName.trans hread'.paramName.symm) (hptr.trans hptr'.symm)
    (hbit.trans hbit'.symm) (hread.paramType.trans hread'.paramType.symm)

/-- What the table was does not matter apart from the parameters that no line sets. -/
theorem readLines_eq {strs : List (List UInt8)} (hlength : ∀ str ∈ strs, str.length < 172)
    (h : IsProcessTable table)
    (hset : ∀ entry ∈ table, IsSetBy atof zero entry strs ∨ entry.erase = entry) :
    readLines atof zero strs table =
      readLines atof zero strs (locProcessConfParameterTable F) := by
  rw [← h, readLines, readLines, map_map]
  refine map_congr_left fun entry hmem ↦ ?_
  rcases hset entry hmem with hset | herase
  · exact putAll_erase atof zero hlength h hmem hset
  · exact (congrArg (LocParam.putAll 172 (itemsOf atof zero strs)) herase).symm

variable (device : Device) (sglteTarget : Int32) (locServiceMask : UInt32)

/-- The entries that are filled after the lines of each pass, and the parameters in the end -/
def passes : List (List (List UInt8)) → List (LocParam F) →
    List LocProcessInfo × List (LocParam F)
  | [], table => ([], table)
  | strs :: windows, table =>
    let filled := fillProcessInfo device sglteTarget locServiceMask
      (readLines atof zero strs table)
    let rest := passes windows filled.2
    (filled.1 :: rest.1, rest.2)

theorem IsProcessTable.fillProcessInfo (h : IsProcessTable table) :
    IsProcessTable (fillProcessInfo device sglteTarget locServiceMask table).2 := by
  rw [Config.fillProcessInfo]
  split_ifs
  · exact h
  · exact h
  · exact h
  · exact h
  · exact h
  · dsimp only
    split_ifs <;> exact h.mapStrings _ _

theorem exists_locReadConfR_eq (h : IsProcessTable table) (text : List UInt8) :
    ∃ rest, locReadConfR atof zero text table =
        some (rest, readLines atof zero (taken (setsSome atof zero) 12 (pieces 172 text)) table) ∧
      pieces 172 rest = left (setsSome atof zero) 12 (pieces 172 text) := by
  obtain ⟨rest, hread, hrest⟩ := exists_readLoop_eq atof zero (show 2 ≤ 172 by decide) table.length
    (Nat.lt_succ_self text.length) h.nodup
  rw [h.length, h.counts] at hread hrest
  refine ⟨rest, ?_, hrest⟩
  rw [locReadConfR, locReadConfRLong, h.map_clearSet, h.length]
  exact hread

/-- Each pass reads on where the one before has stopped. -/
theorem readProcesses_eq (h : IsProcessTable table) (n : ℕ) (text : List UInt8) :
    readProcesses atof zero device sglteTarget locServiceMask n text table =
      some (passes atof zero device sglteTarget locServiceMask
        (windows (setsSome atof zero) 12 n (pieces 172 text)) table) := by
  induction n generalizing text table with
  | zero => rfl
  | succ n ih =>
    obtain ⟨rest, hread, hrest⟩ := exists_locReadConfR_eq atof zero h text
    rw [readProcesses, hread, windows, passes]
    dsimp only [Option.bind_eq_bind, Option.bind_some]
    rw [ih ((h.readLines atof zero _).fillProcessInfo device sglteTarget locServiceMask), hrest]
    rfl

end

/-! ## Counting the names -/

section

variable {F : Type} (atof : List UInt8 → F) (zero : F) {table : List (LocParam F)}

/-- The line sets the parameter. -/
def setsParam (entry : LocParam F) (str : List UInt8) : Bool :=
  (configValue atof zero str).any entry.takes

/-- A part of a file for one process -/
structure IsBlock (block : List (List UInt8)) : Prop where
  /-- It begins with the name, and the name is not empty. -/
  name : ∃ str rest value, block = str :: rest ∧ configValue atof zero str = some value ∧
    value.paramName = bytes "PROCESS_NAME".toList ∧ value.paramStrValue ≠ [] ∧
    value.paramStrValue ≠ bytes "NULL".toList
  /-- No parameter comes twice. -/
  once : (namesSet atof zero (locProcessConfParameterTable F) block).Nodup

/-- Every parameter has a line. -/
def IsComplete (block : List (List UInt8)) : Prop :=
  ∀ entry ∈ locProcessConfParameterTable F, IsSetBy atof zero entry block

variable {atof zero} {entry : LocParam F} {strs : List (List UInt8)}

theorem isSetBy_iff :
    IsSetBy atof zero entry strs ↔ ∃ str ∈ strs, setsParam atof zero entry str = true := by
  constructor
  · rintro ⟨value, hvalue, htakes⟩
    obtain ⟨str, hstr, hvalue⟩ := mem_filterMap.mp hvalue
    exact ⟨str, hstr, by rwa [setsParam, hvalue, Option.any_some]⟩
  · rintro ⟨str, hstr, hset⟩
    obtain ⟨value, hvalue, htakes⟩ := (Option.any_eq_true _ _).mp hset
    exact ⟨value, mem_filterMap.mpr ⟨str, hstr, hvalue⟩, htakes⟩

theorem filter_takes_itemsOf (entry : LocParam F) (strs : List (List UInt8)) :
    (itemsOf atof zero strs).filter entry.takes =
      itemsOf atof zero (strs.filter (setsParam atof zero entry)) := by
  induction strs with
  | nil => rfl
  | cons str strs ih =>
    rw [itemsOf_cons, filter_append, ih, filter_cons, setsParam]
    cases hvalue : configValue atof zero str with
    | none => rfl
    | some value =>
      rw [Option.any_some, Option.toList_some]
      cases htakes : entry.takes value with
      | true =>
        rw [filter_cons_of_pos htakes, if_pos rfl, itemsOf_cons, hvalue]
        rfl
      | false =>
        rw [filter_cons_of_neg (by rw [htakes]; exact Bool.false_ne_true),
          if_neg Bool.false_ne_true]
        rfl

/-- Only the lines that set the parameter matter. -/
theorem putAll_congr {n : ℕ} {strs strs' : List (List UInt8)}
    (h : strs.filter (setsParam atof zero entry) = strs'.filter (setsParam atof zero entry)) :
    entry.putAll n (itemsOf atof zero strs) = entry.putAll n (itemsOf atof zero strs') := by
  rw [← putAll_filter, filter_takes_itemsOf, h, ← filter_takes_itemsOf, putAll_filter]

theorem filter_eq_nil_of_not (h : ∀ str ∈ strs, setsParam atof zero entry str = false) :
    strs.filter (setsParam atof zero entry) = [] :=
  filter_eq_nil_iff.mpr fun str hstr ↦ Bool.not_eq_true _ |>.mpr (h str hstr)

theorem putAll_of_not {n : ℕ} (h : ∀ str ∈ strs, setsParam atof zero entry str = false) :
    entry.putAll n (itemsOf atof zero strs) = entry := by
  have hfilter : strs.filter (setsParam atof zero entry) =
      ([] : List (List UInt8)).filter (setsParam atof zero entry) := filter_eq_nil_of_not h
  exact putAll_congr hfilter

theorem counts_singleton (entry : LocParam F) :
    counts atof zero [entry] = setsParam atof zero entry := by
  funext str
  have hhits : hits [entry] = entry.takes := funext fun value ↦ by
    rw [hits, any_cons, any_nil, Bool.or_false]
  rw [counts, hhits, setsParam]

variable (F) in
/-- The parameter of the name -/
abbrev nameParam : LocParam F := stringParam F "PROCESS_NAME"

theorem nameParam_takes {value : ConfigValue F}
    (h : value.paramName = bytes "PROCESS_NAME".toList) : (nameParam F).takes value = true := by
  rw [LocParam.takes, decide_eq_true (show (nameParam F).paramName = value.paramName from h.symm)]
  rfl

theorem mem_table_nameParam : nameParam F ∈ locProcessConfParameterTable F := mem_cons_self

/-- Only the first line of a block has the name. -/
theorem IsBlock.tail {str : List UInt8} {rest : List (List UInt8)}
    (h : IsBlock atof zero (str :: rest)) :
    setsParam atof zero (nameParam F) str = true ∧
      ∀ str ∈ rest, setsParam atof zero (nameParam F) str = false := by
  obtain ⟨_, _, value, hblock, hvalue, hname, -⟩ := h.name
  obtain ⟨rfl, rfl⟩ := List.cons.inj hblock
  have htakes := nameParam_takes hname
  refine ⟨by rwa [setsParam, hvalue, Option.any_some], fun str' hstr ↦ ?_⟩
  rw [← Bool.not_eq_true]
  intro hset
  obtain ⟨value', hvalue', htakes'⟩ := (Option.any_eq_true _ _).mp hset
  have hhits := (takes_iff_of_mem nodup_table mem_table_nameParam value).mp htakes
  have hhits' := (takes_iff_of_mem nodup_table mem_table_nameParam value').mp htakes'
  have honce := h.once
  rw [namesSet, itemsOf_cons, hvalue, Option.toList_some, filter_append,
    filter_cons_of_pos hhits.1, map_append, filter_nil, map_singleton,
    singleton_append, nodup_cons] at honce
  exact honce.1 (mem_map.mpr ⟨value', mem_filter.mpr
    ⟨mem_filterMap.mpr ⟨str', hstr, hvalue'⟩, hhits'.1⟩, hhits'.2.symm.trans hhits.2⟩)

theorem IsProcessTable.exists_cons (h : IsProcessTable table) :
    ∃ name rest, table = ⟨bytes "PROCESS_NAME".toList, some (.string name), none, 's'⟩ :: rest ∧
      ∀ entry ∈ rest, entry.paramName ≠ bytes "PROCESS_NAME".toList := by
  cases table with
  | nil => cases h
  | cons entry rest =>
    have hname : entry.paramName = bytes "PROCESS_NAME".toList :=
      congrArg LocParam.paramName (List.cons.inj h).1
    have htype : entry.paramType = 's' := congrArg LocParam.paramType (List.cons.inj h).1
    have hnodup := h.nodup
    rw [map_cons, nodup_cons, hname] at hnodup
    rcases h.cases mem_cons_self with ⟨name, text, rfl⟩ | ⟨name, number, rfl⟩
    · exact ⟨text, rest, by rw [← hname], fun entry hmem heq ↦
        hnodup.1 (heq ▸ mem_map_of_mem hmem)⟩
    · cases htype

theorem mapStrings_name (name : List UInt8) {rest : List (LocParam F)}
    (h : ∀ entry ∈ rest, entry.paramName ≠ bytes "PROCESS_NAME".toList) :
    mapStrings (fun _ ↦ []) ["PROCESS_NAME"]
        (⟨bytes "PROCESS_NAME".toList, some (.string name), none, 's'⟩ :: rest) =
      nameParam F :: rest := by
  rw [mapStrings, map_cons]
  refine congrArg₂ List.cons (if_pos (mem_singleton.mpr rfl))
    ((map_congr_left fun entry hmem ↦ ?_).trans (map_id rest))
  exact if_neg fun hname ↦ h entry hmem (mem_singleton.mp hname)

theorem stringOf_name (name : List UInt8) (rest : List (LocParam F)) :
    stringOf (⟨bytes "PROCESS_NAME".toList, some (.string name), none, 's'⟩ :: rest)
      "PROCESS_NAME" = name := by
  rw [stringOf, find?_cons_of_pos (by exact decide_eq_true rfl)]

variable (atof zero) in
/-- What a pass with one parameter reads -/
theorem exists_locReadConfR_name (text : List UInt8) :
    ∃ rest, locReadConfR atof zero text [nameParam F] = some (rest, [(nameParam F).putAll 172
        (itemsOf atof zero (taken (setsParam atof zero (nameParam F)) 1 (pieces 172 text)))]) ∧
      pieces 172 rest = left (setsParam atof zero (nameParam F)) 1 (pieces 172 text) := by
  obtain ⟨rest, hread, hrest⟩ := exists_readLoop_eq atof zero (show 2 ≤ 172 by decide) 1
    (Nat.lt_succ_self text.length)
    (show ([nameParam F].map LocParam.paramName).Nodup from nodup_singleton _)
  rw [counts_singleton] at hread hrest
  exact ⟨rest, hread, hrest⟩

/-- The names are counted, and the name is empty after it. -/
theorem countProcesses_eq {blocks : List (List (List UInt8))}
    (hblocks : ∀ block ∈ blocks, IsBlock atof zero block) {pre : List (List UInt8)}
    (hpre : ∀ str ∈ pre, setsParam atof zero (nameParam F) str = false) {text : List UInt8}
    (hpieces : pieces 172 text = pre ++ blocks.flatten) {fuel : ℕ} (hfuel : blocks.length < fuel)
    (h : IsProcessTable table) (count : UInt8) :
    countProcesses atof zero fuel count text table =
      some (count + UInt8.ofNat blocks.length,
        mapStrings (fun _ ↦ []) ["PROCESS_NAME"] table) := by
  induction blocks generalizing fuel pre text table count with
  | nil =>
    obtain ⟨fuel, rfl⟩ := Nat.exists_eq_add_one_of_ne_zero (Nat.ne_zero_of_lt hfuel)
    obtain ⟨name, tail, rfl, htail⟩ := h.exists_cons
    obtain ⟨rest, hread, -⟩ := exists_locReadConfR_name atof zero text
    rw [flatten_nil, List.append_nil] at hpieces
    have hnone : (nameParam F).putAll 172 (itemsOf atof zero
        (taken (setsParam atof zero (nameParam F)) 1 (pieces 172 text))) = nameParam F := by
      refine putAll_of_not fun str hstr ↦ hpre str ?_
      rw [← hpieces]
      exact mem_of_mem_taken hstr
    rw [hnone] at hread
    rw [countProcesses, mapStrings_name name htail, take_succ_cons, take_zero, hread]
    dsimp only [Option.bind_eq_bind, Option.bind_some]
    rw [singleton_append, drop_succ_cons, drop_zero]
    refine (if_pos (stringOf_name [] tail)).trans ?_
    exact congrArg some (Prod.ext (UInt8.add_zero count).symm rfl)
  | cons block blocks ih =>
    obtain ⟨fuel, rfl⟩ := Nat.exists_eq_add_one_of_ne_zero (Nat.ne_zero_of_lt hfuel)
    obtain ⟨name, tail, rfl, htail⟩ := h.exists_cons
    obtain ⟨rest, hread, hrest⟩ := exists_locReadConfR_name atof zero text
    rw [forall_mem_cons] at hblocks
    obtain ⟨str, others, value, rfl, hvalue, hname, hnil, hnull⟩ := hblocks.1.name
    obtain ⟨hfirst, hothers⟩ := hblocks.1.tail
    have hsplit : pieces 172 text = (pre ++ [str]) ++ (others ++ blocks.flatten) := by
      rw [hpieces, flatten_cons, append_assoc, cons_append, singleton_append]
    have hcount : (pre ++ [str]).countP (setsParam atof zero (nameParam F)) = 1 := by
      rw [countP_append, countP_eq_zero.mpr fun str hstr ↦ by
        rw [hpre str hstr]; exact Bool.false_ne_true, countP_singleton, if_pos hfirst]
    obtain ⟨others', htaken, hleft, hothers'⟩ := exists_left_append hcount (others ++ blocks.flatten)
    rw [← hsplit] at htaken hleft
    have hlength : value.paramStrValue.length < 172 := by
      refine (length_configValue_le hvalue).trans_lt
        (length_lt_of_mem_pieces (by decide) (show str ∈ pieces 172 text from ?_))
      rw [hsplit]
      exact mem_append_left _ (mem_append_right _ (mem_singleton.mpr rfl))
    have hput : (nameParam F).put 172 value =
        ⟨bytes "PROCESS_NAME".toList, some (.string value.paramStrValue), none, 's'⟩ := by
      have htake : value.paramStrValue.take 171 = value.paramStrValue :=
        take_of_length_le (by omega)
      rw [LocParam.put, locSetConfigEntry]
      refine (congrArg Prod.snd ((if_pos hname.symm).trans (if_neg hnull))).trans ?_
      rw [if_neg (by decide), htake]
      rfl
    have hname' : (nameParam F).putAll 172 (itemsOf atof zero
        (taken (setsParam atof zero (nameParam F)) 1 (pieces 172 text))) =
        ⟨bytes "PROCESS_NAME".toList, some (.string value.paramStrValue), none, 's'⟩ := by
      have hfilter := congrArg (List.filter (setsParam atof zero (nameParam F))) htaken
      rw [filter_append, filter_append, filter_eq_nil_of_not hpre,
        filter_eq_nil_of_not hothers', nil_append, List.append_nil] at hfilter
      rw [← hput, ← putAll_congr hfilter, itemsOf_cons, hvalue]
      rfl
    have hpre' : ∀ str ∈ others' ++ others, setsParam atof zero (nameParam F) str = false := by
      intro str hstr
      exact (mem_append.mp hstr).elim (hothers' str) (hothers str)
    have htable : IsProcessTable
        (⟨bytes "PROCESS_NAME".toList, some (.string value.paramStrValue), none, 's'⟩ :: tail) := h
    rw [countProcesses, mapStrings_name name htail, take_succ_cons, take_zero, hread,
      hname']
    dsimp only [Option.bind_eq_bind, Option.bind_some]
    rw [singleton_append, drop_succ_cons, drop_zero, stringOf_name, if_neg hnil,
      ih hblocks.2 hpre' (by rw [hrest, hleft, append_assoc]) (Nat.lt_of_succ_lt_succ hfuel)
        htable, mapStrings_name _ htail, length_cons, UInt8.ofNat_add,
      UInt8.add_assoc, UInt8.add_comm 1]
    rfl

end

/-! ## Staying in step -/

section

variable {F : Type} {atof : List UInt8 → F} {zero : F} {table : List (LocParam F)}
  {block : List (List UInt8)} {blocks : List (List (List UInt8))}

/-- A block has a line for as many parameters as it has lines that set one. -/
theorem IsBlock.countP_eq (h : IsBlock atof zero block) :
    block.countP (setsSome atof zero) =
      recordsSet atof zero (locProcessConfParameterTable F) block := by
  rw [recordsSet_eq atof zero nodup_table, dedup_eq_self.mpr h.once, length_namesSet]
  rfl

theorem IsBlock.countP_le (h : IsBlock atof zero block) :
    block.countP (setsSome atof zero) ≤ 12 := by
  rw [h.countP_eq]
  exact countP_le_length

theorem IsBlock.isComplete_iff (h : IsBlock atof zero block) :
    IsComplete atof zero block ↔ block.countP (setsSome atof zero) = 12 := by
  rw [h.countP_eq]
  refine Iff.trans (forall₂_congr fun entry _ ↦ ?_)
    (countP_eq_length (l := locProcessConfParameterTable F)).symm
  rw [any_eq_true]
  rfl

theorem isSetBy_erase (entry : LocParam F) (strs : List (List UInt8)) :
    IsSetBy atof zero entry.erase strs ↔ IsSetBy atof zero entry strs := by
  rw [IsSetBy, takes_erase, IsSetBy]

theorem IsProcessTable.erase_mem (h : IsProcessTable table) {entry : LocParam F}
    (hmem : entry ∈ table) : entry.erase ∈ locProcessConfParameterTable F := by
  rw [← h]
  exact mem_map_of_mem hmem

variable (atof zero) in
/-- The entry for a block alone, with all parameters zero before it -/
def entryOf (device : Device) (sglteTarget : Int32) (locServiceMask : UInt32)
    (block : List (List UInt8)) : LocProcessInfo :=
  (fillProcessInfo device sglteTarget locServiceMask
    (readLines atof zero block (locProcessConfParameterTable F))).1

/-- A reader that is in step with the blocks reads one in each pass, if they are complete. -/
theorem passes_of_isComplete (device : Device) (sglteTarget : Int32) (locServiceMask : UInt32)
    (hblocks : ∀ block ∈ blocks, IsBlock atof zero block)
    (hcomplete : ∀ block ∈ blocks, IsComplete atof zero block) {pre : List (List UInt8)}
    (hpre : ∀ str ∈ pre, setsSome atof zero str = false)
    (hlength : ∀ str ∈ blocks.flatten, str.length < 172) (h : IsProcessTable table) :
    (passes atof zero device sglteTarget locServiceMask
        (windows (setsSome atof zero) 12 blocks.length (pre ++ blocks.flatten)) table).1 =
      blocks.map (entryOf atof zero device sglteTarget locServiceMask) := by
  induction blocks generalizing pre table with
  | nil => rfl
  | cons block blocks ih =>
    rw [forall_mem_cons] at hblocks hcomplete
    rw [flatten_cons, forall_mem_append] at hlength
    have hnone : pre.filter (setsSome atof zero) = [] :=
      filter_eq_nil_iff.mpr fun str hstr ↦ Bool.not_eq_true _ |>.mpr (hpre str hstr)
    have hcount : (pre ++ block).countP (setsSome atof zero) = 12 := by
      rw [countP_append, hblocks.1.isComplete_iff.mp hcomplete.1,
        countP_eq_length_filter, hnone]
      rfl
    obtain ⟨others, htaken, hleft, hothers⟩ := exists_left_append hcount blocks.flatten
    rw [append_assoc] at htaken hleft
    have hfilter := congrArg (List.filter (setsSome atof zero)) htaken
    rw [filter_append, filter_append, hnone, nil_append,
      filter_eq_nil_iff.mpr fun str hstr ↦ Bool.not_eq_true _ |>.mpr (hothers str hstr),
      List.append_nil] at hfilter
    have hread : readLines atof zero (taken (setsSome atof zero) 12
        (pre ++ (block ++ blocks.flatten))) table =
        readLines atof zero block (locProcessConfParameterTable F) := by
      rw [← readLines_congr atof zero h hfilter]
      exact readLines_eq atof zero hlength.1 h fun entry hmem ↦
        Or.inl ((isSetBy_erase entry block).mp (hcomplete.1 _ (h.erase_mem hmem)))
    rw [length_cons, flatten_cons, windows, passes, hread, hleft, map_cons]
    have htable : IsProcessTable (fillProcessInfo device sglteTarget locServiceMask
        (readLines atof zero block (locProcessConfParameterTable F))).2 := by
      refine IsProcessTable.fillProcessInfo device sglteTarget locServiceMask ?_
      exact IsProcessTable.readLines atof zero isProcessTable_table block
    exact congrArg₂ List.cons rfl (ih hblocks.2 hcomplete.2 hothers hlength.2 htable)

end

end MataDevice.Config
