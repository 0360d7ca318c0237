import MataDevice.Config.Blocks

/-!
# Whether an entry comes from its own block

To say where a value comes from, lines are numbered by their blocks. An entry comes from its own
block if each parameter was last set by a line of this block when the entry is filled, and a
parameter without such a line has not been set before. That is so if all blocks are complete, and
otherwise only for a single block.
-/

namespace MataDevice.Config

open List
open MataDevice.Format (bytes)
open MataDevice.Numerals (strtol)
open MataDevice.Countdown

section

variable {F : Type}

/-- The lines of some blocks, each with the number of its block -/
def numbered : ℕ → List (List (List UInt8)) → List (ℕ × List UInt8)
  | _, [] => []
  | i, block :: blocks => block.map (i, ·) ++ numbered (i + 1) blocks

theorem map_snd_numbered (i : ℕ) (blocks : List (List (List UInt8))) :
    (numbered i blocks).map Prod.snd = blocks.flatten := by
  induction blocks generalizing i with
  | nil => rfl
  | cons block blocks ih =>
    rw [numbered, map_append, ih, map_map, flatten_cons]
    exact congrArg (· ++ blocks.flatten) (map_id block)

theorem numbered_append (i : ℕ) (blocks blocks' : List (List (List UInt8))) :
    numbered i (blocks ++ blocks') =
      numbered i blocks ++ numbered (i + blocks.length) blocks' := by
  induction blocks generalizing i with
  | nil => rfl
  | cons block blocks ih =>
    rw [cons_append, numbered, ih, numbered, append_assoc, length_cons,
      Nat.add_assoc, Nat.add_comm 1]

variable {str : ℕ × List UInt8}

theorem le_of_mem_numbered {i : ℕ} {blocks : List (List (List UInt8))}
    (h : str ∈ numbered i blocks) : i ≤ str.1 := by
  induction blocks generalizing i with
  | nil => cases h
  | cons block blocks ih =>
    rw [numbered, mem_append] at h
    rcases h with h | h
    · obtain ⟨_, -, rfl⟩ := mem_map.mp h
      exact le_rfl
    · exact Nat.le_of_succ_le (ih h)

variable (atof : List UInt8 → F) (zero : F)

/-- The numbered line that sets the parameter last -/
def lastSet (entry : LocParam F) (strs : List (ℕ × List UInt8)) : Option (ℕ × List UInt8) :=
  strs.reverse.find? fun str ↦ setsParam atof zero entry str.2

/-- The numbered lines that have been read when the entry of number `j` is filled -/
def linesRead (blocks : List (List (List UInt8))) (j : ℕ) : List (ℕ × List UInt8) :=
  ((windows (setsSome atof zero ∘ Prod.snd) 12 blocks.length (numbered 0 blocks)).take
    (j + 1)).flatten

/-- Each entry comes from its own block. -/
def IsFromOwnBlock (conf : List (LocParam F)) (blocks : List (List (List UInt8))) : Prop :=
  ∀ j block, blocks[j]? = some block → ∀ entry ∈ conf,
    lastSet atof zero entry (linesRead atof zero blocks j) =
        lastSet atof zero entry (block.map (j, ·)) ∧
      (lastSet atof zero entry (block.map (j, ·)) = none → entry.erase = entry)

variable {atof zero} {table : List (LocParam F)} {blocks : List (List (List UInt8))}

theorem lastSet_append (entry : LocParam F) (strs strs' : List (ℕ × List UInt8)) :
    lastSet atof zero entry (strs ++ strs') =
      (lastSet atof zero entry strs').or (lastSet atof zero entry strs) := by
  rw [lastSet, reverse_append, find?_append]
  rfl

variable {entry : LocParam F} {strs : List (ℕ × List UInt8)}

theorem mem_of_lastSet (h : lastSet atof zero entry strs = some str) : str ∈ strs :=
  mem_reverse.mp (mem_of_find?_eq_some h)

theorem isSome_lastSet (hmem : str ∈ strs) (hset : setsParam atof zero entry str.2 = true) :
    (lastSet atof zero entry strs).isSome = true :=
  find?_isSome.mpr ⟨str, mem_reverse.mpr hmem, hset⟩

variable {block : List (List UInt8)}

theorem isSome_lastSet_map_iff (j : ℕ) :
    (lastSet atof zero entry (block.map (j, ·))).isSome = true ↔
      IsSetBy atof zero entry block := by
  rw [isSetBy_iff]
  constructor
  · intro h
    obtain ⟨str, hlast⟩ := Option.isSome_iff_exists.mp h
    obtain ⟨str, hstr, rfl⟩ := mem_map.mp (mem_of_lastSet hlast)
    unfold lastSet at hlast
    exact ⟨str, hstr, by simpa using find?_some hlast⟩
  · rintro ⟨str, hstr, hset⟩
    exact isSome_lastSet (mem_map_of_mem hstr) hset

/-- A line that sets a parameter of the table sets some parameter. -/
theorem IsProcessTable.setsSome (h : IsProcessTable table)
    (hmem : entry ∈ table) {str : List UInt8} (hset : setsParam atof zero entry str = true) :
    setsSome atof zero str = true := by
  obtain ⟨value, hvalue, htakes⟩ := (Option.any_eq_true _ _).mp hset
  rw [← congrFun (h.counts atof zero) str]
  exact (Option.any_eq_true _ _).mpr ⟨value, hvalue, any_eq_true.mpr ⟨entry, hmem, htakes⟩⟩

theorem lastSet_filter (h : IsProcessTable table) (hmem : entry ∈ table)
    (strs : List (ℕ × List UInt8)) :
    lastSet atof zero entry (strs.filter (Config.setsSome atof zero ∘ Prod.snd)) =
      lastSet atof zero entry strs := by
  rw [lastSet, ← filter_reverse, find?_filter]
  refine congrArg (fun p ↦ strs.reverse.find? p) (funext fun str ↦ ?_)
  rw [Bool.decide_and, Bool.decide_eq_true, Bool.decide_eq_true, Function.comp_apply]
  cases hset : setsParam atof zero entry str.2 with
  | false => rw [Bool.and_false]
  | true => rw [h.setsSome hmem hset, Bool.and_true]

theorem length_filter_map (block : List (List UInt8)) (j : ℕ) :
    ((block.map (j, ·)).filter (setsSome atof zero ∘ Prod.snd)).length =
      block.countP (setsSome atof zero) := by
  rw [← countP_eq_length_filter, countP_map]
  rfl

theorem length_filter_numbered (i : ℕ) (hblocks : ∀ block ∈ blocks, IsBlock atof zero block)
    (hcomplete : ∀ block ∈ blocks, IsComplete atof zero block) :
    ((numbered i blocks).filter (setsSome atof zero ∘ Prod.snd)).length = blocks.length * 12 := by
  induction blocks generalizing i with
  | nil => rw [length_nil, Nat.zero_mul]; rfl
  | cons block blocks ih =>
    rw [forall_mem_cons] at hblocks hcomplete
    rw [numbered, filter_append, length_append, length_filter_map,
      hblocks.1.isComplete_iff.mp hcomplete.1, ih (i + 1) hblocks.2 hcomplete.2, length_cons]
    omega

/-- After complete blocks a pass begins with the next one. -/
theorem filter_linesRead (before after : List (List (List UInt8))) (block : List (List UInt8))
    (hbefore : ∀ block ∈ before, IsBlock atof zero block)
    (hcomplete : ∀ block ∈ before, IsComplete atof zero block) :
    (linesRead atof zero (before ++ block :: after) before.length).filter
        (setsSome atof zero ∘ Prod.snd) =
      (numbered 0 before).filter (setsSome atof zero ∘ Prod.snd) ++
        ((block.map (before.length, ·)).filter (setsSome atof zero ∘ Prod.snd) ++
          (numbered (before.length + 1) after).filter (setsSome atof zero ∘ Prod.snd)).take 12 := by
  have hle : before.length + 1 ≤ (before ++ block :: after).length := by
    rw [length_append, length_cons]
    omega
  have hlength : (before.length + 1) * 12 =
      ((numbered 0 before).filter (setsSome atof zero ∘ Prod.snd)).length + 12 := by
    rw [length_filter_numbered 0 hbefore hcomplete]
    omega
  rw [linesRead, take_windows hle, filter_flatten_windows, numbered_append, numbered,
    filter_append, filter_append, Nat.zero_add, hlength, take_length_add_append]

theorem exists_append_of_getElem? {j : ℕ} (h : blocks[j]? = some block) :
    ∃ before after, blocks = before ++ block :: after ∧ before.length = j := by
  obtain ⟨hj, rfl⟩ := List.getElem?_eq_some_iff.mp h
  refine ⟨blocks.take j, blocks.drop (j + 1), ?_, length_take_of_le hj.le⟩
  rw [cons_getElem_drop_succ, take_append_drop]

/-- The parameters that complete blocks set come from their own block. -/
theorem lastSet_linesRead (hblocks : ∀ block ∈ blocks, IsBlock atof zero block)
    (hcomplete : ∀ block ∈ blocks, IsComplete atof zero block) (h : IsProcessTable table)
    (hmem : entry ∈ table) {j : ℕ}
    (hblock : blocks[j]? = some block) :
    lastSet atof zero entry (linesRead atof zero blocks j) =
      lastSet atof zero entry (block.map (j, ·)) := by
  obtain ⟨before, after, rfl, rfl⟩ := exists_append_of_getElem? hblock
  rw [forall_mem_append, forall_mem_cons] at hblocks hcomplete
  have htwelve := hblocks.2.1.isComplete_iff.mp hcomplete.2.1
  rw [← length_filter_map block before.length] at htwelve
  have hsome : (lastSet atof zero entry (block.map (before.length, ·))).isSome = true :=
    (isSome_lastSet_map_iff _).mpr ((isSetBy_erase entry block).mp
      (hcomplete.2.1 _ (h.erase_mem hmem)))
  rw [← lastSet_filter h hmem, filter_linesRead before after block hblocks.1 hcomplete.1,
    ← htwelve, take_left, lastSet_append, lastSet_filter h hmem]
  exact Option.or_of_isSome hsome

theorem lastSet_linesRead_singleton (hblock : IsBlock atof zero block)
    (h : IsProcessTable table) (hmem : entry ∈ table) :
    lastSet atof zero entry (linesRead atof zero [block] 0) =
      lastSet atof zero entry (block.map (0, ·)) := by
  have hnone : ∀ block ∈ ([] : List (List (List UInt8))), IsBlock atof zero block ∧
      IsComplete atof zero block := fun _ hmem ↦ absurd hmem not_mem_nil
  have hfilter := filter_linesRead [] [] block (fun block hmem ↦ (hnone block hmem).1)
    fun block hmem ↦ (hnone block hmem).2
  have hle := hblock.countP_le
  rw [← length_filter_map block 0] at hle
  rw [nil_append, length_nil, numbered, numbered, filter_nil, nil_append,
    List.append_nil, take_of_length_le hle] at hfilter
  rw [← lastSet_filter h hmem, hfilter, lastSet_filter h hmem]

/-- In the table there is a parameter for each of `loc_process_conf_parameter_table`. -/
theorem IsProcessTable.exists_erase_eq (h : IsProcessTable table)
    (hmem : entry ∈ locProcessConfParameterTable F) : ∃ entry' ∈ table, entry'.erase = entry := by
  rw [← h] at hmem
  exact mem_map.mp hmem

/-- A block that is not complete takes the name of the next one. -/
theorem lt_of_lastSet_name (before after : List (List (List UInt8)))
    {next : List (List UInt8)} (hbefore : ∀ block ∈ before, IsBlock atof zero block)
    (hcomplete : ∀ block ∈ before, IsComplete atof zero block) (hblock : IsBlock atof zero block)
    (hincomplete : ¬ IsComplete atof zero block) (hnext : IsBlock atof zero next)
    (h : IsProcessTable table) (hmem : entry ∈ table)
    (hname : entry.erase = nameParam F) :
    ∃ str, lastSet atof zero entry
        (linesRead atof zero (before ++ block :: next :: after) before.length) = some str ∧
      before.length < str.1 := by
  have hlt : ((block.map (before.length, ·)).filter (setsSome atof zero ∘ Prod.snd)).length < 12 :=
    by
      rw [length_filter_map]
      exact lt_of_le_of_ne hblock.countP_le fun hcount ↦
        hincomplete (hblock.isComplete_iff.mpr hcount)
  obtain ⟨k, hk⟩ := Nat.exists_eq_add_of_lt hlt
  obtain ⟨str, rest, value, rfl, -⟩ := hnext.name
  have hset : setsParam atof zero entry str = true := by
    rw [setsParam, ← takes_erase, hname]
    exact hnext.tail.1
  obtain ⟨others, hcons, hothers⟩ : ∃ others,
      (numbered (before.length + 1) ((str :: rest) :: after)).filter
        (setsSome atof zero ∘ Prod.snd) = (before.length + 1, str) :: others ∧
      ∀ str ∈ others, before.length + 1 ≤ str.1 := by
    refine ⟨_, filter_cons_of_pos (h.setsSome hmem hset), fun str hstr ↦ ?_⟩
    have hnumbered : str ∈ numbered (before.length + 1) ((str.2 :: rest) :: after) :=
      mem_cons_of_mem _ (mem_of_mem_filter hstr)
    exact le_of_mem_numbered hnumbered
  have hread := filter_linesRead before ((str :: rest) :: after) block hbefore hcomplete
  rw [take_append, take_of_length_le hlt.le, hk, Nat.add_assoc, Nat.add_sub_cancel_left,
    hcons, take_succ_cons, ← append_assoc] at hread
  have hmem' : (before.length + 1, str) ∈ (before.length + 1, str) :: others.take k :=
    mem_cons_self
  obtain ⟨last, hlast⟩ := Option.isSome_iff_exists.mp (isSome_lastSet hmem' hset)
  refine ⟨last, ?_, ?_⟩
  · rw [← lastSet_filter h hmem, hread, lastSet_append, hlast]
    rfl
  · rcases mem_cons.mp (mem_of_lastSet hlast) with rfl | hlast
    · exact Nat.lt_succ_self _
    · exact hothers last (mem_of_mem_take hlast)

/-- If there is more than one block, each entry comes from its own only if they are complete. -/
theorem isComplete_of_isFromOwnBlock (hblocks : ∀ block ∈ blocks, IsBlock atof zero block)
    (hlength : 2 ≤ blocks.length) (h : IsProcessTable table)
    (hown : IsFromOwnBlock atof zero table blocks) :
    ∀ block ∈ blocks, IsComplete atof zero block := by
  have hall : ∀ (j : ℕ) (block : List (List UInt8)), blocks[j]? = some block →
      IsComplete atof zero block := by
    intro j
    induction j using Nat.strong_induction_on with
    | _ j ih =>
      intro block hblock
      by_contra hincomplete
      have hentry := hown j block hblock
      obtain ⟨before, after, rfl, rfl⟩ := exists_append_of_getElem? hblock
      rw [forall_mem_append, forall_mem_cons] at hblocks
      have hcomplete : ∀ block ∈ before, IsComplete atof zero block := by
        intro block' hmem
        obtain ⟨i, hi, rfl⟩ := getElem_of_mem hmem
        exact ih i hi _ (by rw [getElem?_append_left hi, getElem?_eq_getElem hi])
      cases after with
      | cons next after =>
        obtain ⟨entry, hmem, hname⟩ := h.exists_erase_eq mem_table_nameParam
        obtain ⟨str, hlast, hlt⟩ := lt_of_lastSet_name before after hblocks.1 hcomplete
          hblocks.2.1 hincomplete (hblocks.2.2 next mem_cons_self) h hmem hname
        have hmem' := mem_of_lastSet ((hentry entry hmem).1.symm.trans hlast)
        obtain ⟨_, -, rfl⟩ := mem_map.mp hmem'
        exact lt_irrefl _ hlt
      | nil =>
        -- A parameter that the last block lacks has its value from the block before.
        have hnil : before ≠ [] := by
          rintro rfl
          exact absurd hlength (Nat.not_succ_le_self 1)
        obtain ⟨before', last, rfl⟩ : ∃ before' last, before = before' ++ [last] :=
          ⟨before.dropLast, before.getLast hnil, (dropLast_append_getLast hnil).symm⟩
        rw [IsComplete] at hincomplete
        push Not at hincomplete
        obtain ⟨entry₀, hmem₀, hnot⟩ := hincomplete
        obtain ⟨entry, hmem, rfl⟩ := h.exists_erase_eq hmem₀
        rw [isSetBy_erase] at hnot
        have hlast := hcomplete last (mem_append_right _ (mem_singleton.mpr rfl))
          entry.erase hmem₀
        rw [isSetBy_erase, isSetBy_iff] at hlast
        obtain ⟨str, hstr, hset⟩ := hlast
        have hnumbered : (before'.length, str) ∈ numbered 0 (before' ++ [last]) := by
          rw [numbered_append, Nat.zero_add, numbered]
          exact mem_append_right _ (mem_append_left _ (mem_map_of_mem hstr))
        have hread : (before'.length, str) ∈
            linesRead atof zero (before' ++ [last] ++ [block]) (before' ++ [last]).length := by
          refine mem_of_mem_filter (p := setsSome atof zero ∘ Prod.snd) ?_
          rw [filter_linesRead (before' ++ [last]) [] block hblocks.1 hcomplete]
          exact mem_append_left _
            (mem_filter.mpr ⟨hnumbered, h.setsSome hmem hset⟩)
        have hsome := isSome_lastSet hread hset
        rw [(hentry entry hmem).1] at hsome
        exact hnot ((isSome_lastSet_map_iff _).mp hsome)
  intro block hmem
  obtain ⟨j, hj, rfl⟩ := getElem_of_mem hmem
  exact hall j _ (getElem?_eq_getElem hj)

/-- **Which entries come from their own block**: all of them if all blocks are complete or if there
is one block and what it does not set is zero, and not all of them otherwise. -/
theorem isFromOwnBlock_iff (hblocks : ∀ block ∈ blocks, IsBlock atof zero block)
    (hnil : blocks ≠ []) (h : IsProcessTable table) :
    IsFromOwnBlock atof zero table blocks ↔
      (∀ block ∈ blocks, IsComplete atof zero block) ∨ ∃ block, blocks = [block] ∧
        ∀ entry ∈ table, IsSetBy atof zero entry block ∨ entry.erase = entry := by
  have hnone {entry : LocParam F} {block : List (List UInt8)} {j : ℕ}
      (hset : IsSetBy atof zero entry block) :
      lastSet atof zero entry (block.map (j, ·)) ≠ none :=
    Option.isSome_iff_ne_none.mp ((isSome_lastSet_map_iff j).mpr hset)
  constructor
  · intro hown
    by_cases hlength : 2 ≤ blocks.length
    · exact Or.inl (isComplete_of_isFromOwnBlock hblocks hlength h hown)
    · have hpos := length_pos_of_ne_nil hnil
      obtain ⟨block, rfl⟩ := length_eq_one_iff.mp (show blocks.length = 1 by omega)
      refine Or.inr ⟨block, rfl, fun entry hmem ↦ or_iff_not_imp_left.mpr fun hset ↦ ?_⟩
      refine (hown 0 block rfl entry hmem).2 (Option.not_isSome_iff_eq_none.mp fun hsome ↦ ?_)
      exact hset ((isSome_lastSet_map_iff 0).mp hsome)
  · rintro (hcomplete | ⟨block, rfl, hzero⟩)
    · intro j block hblock entry hmem
      have hset := (isSetBy_erase entry block).mp
        (hcomplete block (mem_of_getElem? hblock) _ (h.erase_mem hmem))
      exact ⟨lastSet_linesRead hblocks hcomplete h hmem hblock, fun hlast ↦ absurd hlast (hnone hset)⟩
    · intro j block' hblock entry hmem
      obtain ⟨hj, rfl⟩ := List.getElem?_eq_some_iff.mp hblock
      obtain rfl := Nat.lt_one_iff.mp hj
      refine ⟨lastSet_linesRead_singleton (hblocks block mem_cons_self) h hmem,
        fun hlast ↦ ?_⟩
      exact (hzero entry hmem).resolve_left fun hset ↦ hnone hset hlast

/-- Entries from their own blocks are determined by these. -/
theorem passes_of_isFromOwnBlock (device : Device) (sglteTarget : Int32) (locServiceMask : UInt32)
    (hblocks : ∀ block ∈ blocks, IsBlock atof zero block) (hnil : blocks ≠ [])
    (hlength : ∀ str ∈ blocks.flatten, str.length < 172) (h : IsProcessTable table)
    (hown : IsFromOwnBlock atof zero table blocks) :
    (passes atof zero device sglteTarget locServiceMask
        (windows (setsSome atof zero) 12 blocks.length blocks.flatten)
        (mapStrings (fun _ ↦ []) ["PROCESS_NAME"] table)).1 =
      blocks.map (entryOf atof zero device sglteTarget locServiceMask) := by
  have htable := h.mapStrings (fun _ ↦ []) ["PROCESS_NAME"]
  rcases (isFromOwnBlock_iff hblocks hnil h).mp hown with hcomplete | ⟨block, rfl, hzero⟩
  · exact passes_of_isComplete device sglteTarget locServiceMask hblocks hcomplete
      (fun _ hmem ↦ absurd hmem not_mem_nil) hlength htable
  · obtain ⟨name, rest, rfl, hrest⟩ := h.exists_cons
    have hcount := (hblocks block mem_cons_self).countP_le
    rw [mapStrings_name name hrest] at htable ⊢
    rw [flatten_cons, flatten_nil, List.append_nil] at hlength ⊢
    have hread : readLines atof zero (taken (Config.setsSome atof zero) 12 block)
        (nameParam F :: rest) = readLines atof zero block (locProcessConfParameterTable F) := by
      rw [readLines_congr atof zero htable (filter_taken hcount)]
      refine readLines_eq atof zero hlength htable fun entry hmem ↦ ?_
      rcases mem_cons.mp hmem with rfl | hmem
      · exact Or.inr rfl
      · exact hzero entry (mem_cons_of_mem _ hmem)
    rw [length_singleton, windows, windows, passes, hread]
    rfl

/-- A process without one of the parameters that have to be there is not started. -/
theorem procStatus_entryOf (device : Device) (sglteTarget : Int32) (locServiceMask : UInt32)
    {name : String} (hname : name ∈ requiredNames)
    (h : ¬ IsSetBy atof zero (stringParam F name) block) :
    (entryOf atof zero device sglteTarget locServiceMask block).procStatus ≠ .enabled := by
  have hfind : (locProcessConfParameterTable F).find?
      (fun entry ↦ entry.paramName = bytes name.toList) = some (stringParam F name) := by
    simp only [requiredNames, mem_cons, not_mem_nil, or_false] at hname
    rcases hname with rfl | rfl | rfl | rfl | rfl | rfl | rfl
    all_goals rfl
  have hunset : (stringParam F name).putAll 172 (itemsOf atof zero block) = stringParam F name := by
    refine putAll_of_not fun str hstr ↦ ?_
    rw [← Bool.not_eq_true]
    exact fun hset ↦ h (isSetBy_iff.mpr ⟨str, hstr, hset⟩)
  have hempty : stringOf (readLines atof zero block (locProcessConfParameterTable F)) name =
      [] := by
    have hnames : ((fun entry : LocParam F ↦ decide (entry.paramName = bytes name.toList)) ∘
        LocParam.putAll 172 (itemsOf atof zero block)) =
        fun entry ↦ decide (entry.paramName = bytes name.toList) :=
      funext fun entry ↦ by rw [Function.comp_apply, paramName_putAll]
    rw [stringOf, readLines, find?_map, hnames, hfind, Option.map_some, hunset]
    rfl
  rw [entryOf, fillProcessInfo]
  have hany : (requiredNames.any fun name ↦
      stringOf (readLines atof zero block (locProcessConfParameterTable F)) name = []) = true :=
    any_eq_true.mpr ⟨name, hname, decide_eq_true hempty⟩
  rw [if_pos hany]
  exact fun hstatus ↦ LocProcessStatus.noConfusion hstatus

/-! ## The entries of a file -/

theorem length_pieces_le {n : ℕ} (hn : 2 ≤ n) (text : List UInt8) :
    (pieces n text).length ≤ text.length := by
  induction text using pieces_induction hn with
  | nil =>
    rw [pieces_nil hn]
    exact Nat.le_refl 0
  | cons text htext ih =>
    have hlt := length_rest_lt hn htext
    rw [pieces_of_ne_nil hn htext, length_cons]
    omega

theorem length_blocks_le (hblocks : ∀ block ∈ blocks, IsBlock atof zero block) :
    blocks.length ≤ blocks.flatten.length := by
  induction blocks with
  | nil => exact Nat.zero_le _
  | cons block blocks ih =>
    rw [forall_mem_cons] at hblocks
    obtain ⟨str, rest, _, rfl, -⟩ := hblocks.1.name
    have hle := ih hblocks.2
    rw [flatten_cons, length_append, length_cons, length_cons]
    omega

variable (atof zero)

theorem length_passes (device : Device) (sglteTarget : Int32) (locServiceMask : UInt32)
    (strs : List (List (List UInt8))) (table : List (LocParam F)) :
    (passes atof zero device sglteTarget locServiceMask strs table).1.length = strs.length := by
  induction strs generalizing table with
  | nil => rfl
  | cons str strs ih => exact congrArg Nat.succ (ih _)

theorem exists_utilReadConf (filename : Option (List UInt8)) (table : List (LocParam F)) :
    ∃ table', utilReadConf atof zero filename table = some table' := by
  cases filename with
  | none => exact ⟨table, rfl⟩
  | some file =>
    obtain ⟨read, hread⟩ := exists_readLoop atof zero (show 2 ≤ 172 by decide)
      (table.map clearSet).length (Nat.lt_succ_self file.length) (table.map clearSet)
    rw [length_map] at hread
    exact ⟨read.2, congrArg (Option.map Prod.snd) hread⟩

/-- **Process entries and their blocks.** A file of up to 255 blocks gives as many entries, each of
which is filled after a pass over twelve lines. The entries come from their own blocks if and only
if all blocks are complete or there is only one block and what it does not set is zero. They are
then determined by their blocks, and a block without one of the parameters that have to be there
gives an entry that is not enabled. -/
theorem loc_read_process_conf_iff (device : Device) (gpsConf : Option (List UInt8))
    {text : List UInt8} (hlines : (lines text).map cString = blocks.flatten)
    (hfit : ∀ line ∈ lines text, line.length < 172)
    (hblocks : ∀ block ∈ blocks, IsBlock atof zero block) (hnil : blocks ≠ [])
    (hcount : blocks.length ≤ 255) {conf : LocLauncherConf F}
    (hconf : IsProcessTable conf.process) :
    ∃ gps feature entries process,
      utilReadConf atof zero gpsConf conf.gps = some gps ∧
      utilReadConf atof zero (some text) conf.feature = some feature ∧
      locReadProcessConf atof zero device gpsConf (some text) conf =
        some (some entries, ⟨gps, feature, process⟩) ∧
      entries = (passes atof zero device (numberOf gps "SGLTE_TARGET") (locServiceMask feature)
        ((windows (setsSome atof zero ∘ Prod.snd) 12 blocks.length (numbered 0 blocks)).map
          (List.map Prod.snd))
        (mapStrings (fun _ ↦ []) ["PROCESS_NAME"] conf.process)).1 ∧
      entries.length = blocks.length ∧
      (IsFromOwnBlock atof zero conf.process blocks ↔
        (∀ block ∈ blocks, IsComplete atof zero block) ∨ ∃ block, blocks = [block] ∧
          ∀ entry ∈ conf.process, IsSetBy atof zero entry block ∨ entry.erase = entry) ∧
      (IsFromOwnBlock atof zero conf.process blocks → entries = blocks.map
        (entryOf atof zero device (numberOf gps "SGLTE_TARGET") (locServiceMask feature))) ∧
      ∀ block ∈ blocks, ∀ name ∈ requiredNames, ¬ IsSetBy atof zero (stringParam F name) block →
        (entryOf atof zero device (numberOf gps "SGLTE_TARGET") (locServiceMask feature)
          block).procStatus ≠ .enabled := by
  obtain ⟨gps, hgps⟩ := exists_utilReadConf atof zero gpsConf conf.gps
  obtain ⟨feature, hfeature⟩ := exists_utilReadConf atof zero (some text) conf.feature
  have hpieces : pieces 172 text = blocks.flatten :=
    (pieces_eq_lines (by decide) hfit).trans hlines
  have hfuel : blocks.length < text.length + 1 := by
    have hle := length_pieces_le (show 2 ≤ 172 by decide) text
    rw [hpieces] at hle
    exact Nat.lt_succ_of_le ((length_blocks_le hblocks).trans hle)
  have hlength : ∀ str ∈ blocks.flatten, str.length < 172 := fun str hstr ↦
    length_lt_of_mem_pieces (by decide) (show str ∈ pieces 172 text from hpieces ▸ hstr)
  have hcounted := countProcesses_eq hblocks (fun _ hmem ↦ absurd hmem not_mem_nil)
    (show pieces 172 text = [] ++ blocks.flatten from hpieces) hfuel hconf 0
  have htoNat : (0 + UInt8.ofNat blocks.length).toNat = blocks.length := by
    rw [UInt8.zero_add, UInt8.toNat_ofNat', Nat.mod_eq_of_lt (by omega)]
  have hread := readProcesses_eq atof zero device (numberOf gps "SGLTE_TARGET")
    (locServiceMask feature) (hconf.mapStrings (fun _ ↦ []) ["PROCESS_NAME"]) blocks.length text
  rw [hpieces] at hread
  refine ⟨gps, feature, _, (passes atof zero device (numberOf gps "SGLTE_TARGET")
      (locServiceMask feature) (windows (setsSome atof zero) 12 blocks.length blocks.flatten)
      (mapStrings (fun _ ↦ []) ["PROCESS_NAME"] conf.process)).2,
    hgps, hfeature, ?_, ?_, ?_, isFromOwnBlock_iff hblocks hnil hconf,
    passes_of_isFromOwnBlock device _ _ hblocks hnil hlength hconf,
    fun block _ name hname ↦ procStatus_entryOf device _ _ hname⟩
  · rw [locReadProcessConf, hgps, hfeature]
    dsimp only [Option.bind_eq_bind, Option.bind_some]
    rw [hcounted, Option.bind_some, htoNat, hread, Option.bind_some]
  · rw [← windows_map, map_snd_numbered]
  · rw [length_passes, length_windows]

end

/-! ## A block of a name alone -/

/-- Nothing is known of the system. -/
def sampleDevice : Device := ⟨[], [], [], [], false, false, false, fun _ ↦ none⟩

/-- The structure `conf` before the first call -/
def sampleConf : LocLauncherConf ℤ :=
  ⟨gpsConfParameterTable ℤ, locFeatureConfTable ℤ, locProcessConfParameterTable ℤ⟩

/-- The line of a parameter -/
def sampleLine (line : String) : List UInt8 := bytes line.toList ++ [10]

def nameBlock : List (List UInt8) := [sampleLine "PROCESS_NAME=a"]

def completeBlock : List (List UInt8) :=
  ["PROCESS_NAME=b", "PROCESS_STATE=ENABLED", "PROCESS_GROUPS=gps", "PLATFORMS=all", "SOC_IDS=all",
    "BASEBAND=all", "HARDWARE_TYPE=all", "PREMIUM_FEATURE=0", "IZAT_FEATURE_MASK=0",
    "LOW_RAM_TARGETS=ENABLED", "PROCESS_ARGUMENT=-x", "VENDOR_ENHANCED_PROCESS=0"].map sampleLine

theorem isBlock_nameBlock : IsBlock (strtol 10) 0 nameBlock :=
  ⟨⟨_, _, ⟨bytes "PROCESS_NAME".toList, bytes "a".toList, 0, 0⟩, rfl, by decide +kernel, rfl,
    by decide, by decide⟩, by decide +kernel⟩

theorem isBlock_completeBlock : IsBlock (strtol 10) 0 completeBlock :=
  ⟨⟨_, _, ⟨bytes "PROCESS_NAME".toList, bytes "b".toList, 0, 0⟩, rfl, by decide +kernel, rfl,
    by decide, by decide⟩, by decide +kernel⟩

/-- One block, without most parameters -/
theorem loc_read_process_conf_iff_nameBlock :
    ∃ entry conf, locReadProcessConf (strtol 10) 0 sampleDevice none (some nameBlock.flatten)
        sampleConf = some (some [entry], conf) ∧ entry.procStatus ≠ .enabled := by
  have hzero : ∀ entry ∈ sampleConf.process, entry.erase = entry := by
    decide +kernel
  obtain ⟨gps, feature, entries, process, -, -, hread, -, -, hiff, hentries, hstatus⟩ :=
    loc_read_process_conf_iff (strtol 10) 0 sampleDevice none
      (show (lines nameBlock.flatten).map cString = [nameBlock].flatten by decide +kernel)
      (by decide +kernel) (forall_mem_singleton.mpr isBlock_nameBlock)
      (cons_ne_nil nameBlock []) (by decide)
      (show IsProcessTable sampleConf.process from isProcessTable_table)
  have hown := hiff.mpr (Or.inr ⟨nameBlock, rfl, fun entry hmem ↦ Or.inr (hzero entry hmem)⟩)
  refine ⟨_, _, hread.trans (by rw [hentries hown]; rfl),
    hstatus nameBlock mem_cons_self "PROCESS_STATE" (by decide) ?_⟩
  rintro ⟨value, hvalue, htakes⟩
  have hnone : ∀ value ∈ itemsOf (strtol 10) (0 : ℤ) nameBlock,
      (stringParam ℤ "PROCESS_STATE").takes value = false := by
    decide +kernel
  exact Bool.false_ne_true ((hnone value hvalue).symm.trans htakes)

/-- The first entry is read from the second block, and is enabled without parameters of its own. -/
theorem not_loc_read_process_conf_nameBlock :
    (∀ block ∈ [nameBlock, completeBlock], IsBlock (strtol 10) 0 block) ∧
      (locReadProcessConf (strtol 10) 0 sampleDevice none
          (some (nameBlock ++ completeBlock).flatten) sampleConf).map
        (fun read ↦ read.1.map fun entries ↦
          entries.map fun entry ↦ (entry.procStatus, entry.name)) =
      some (some [(.enabled, bytes "b".toList), (.enabled, bytes "b".toList)]) ∧
      ((itemsOf (strtol 10) 0 nameBlock).any (stringParam ℤ "PROCESS_STATE").takes) = false := by
  refine ⟨?_, by decide +kernel, by decide +kernel⟩
  rw [forall_mem_cons, forall_mem_singleton]
  exact ⟨isBlock_nameBlock, isBlock_completeBlock⟩

end MataDevice.Config
