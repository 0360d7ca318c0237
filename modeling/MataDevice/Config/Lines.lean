import MataDevice.Config.Items
import MataDevice.Lib.Countdown

/-!
# The lines that are handled

Both loops handle lines until they have counted down to zero, the one the pieces that `fgets` reads
of a file and the other the tokens of a buffer. In a table of distinct names at most one parameter
takes the item of a line, so that each line counts for one or for nothing and the countdown does not
go below zero. Which lines are handled is then a matter of the text and the names in the table, and
`Countdown.taken` says which.
-/

namespace MataDevice.Config

open MataDevice.Countdown List

/-! ## The pieces of a file -/

/-- The lines of a text, each with the newline at its end -/
def lines : List UInt8 → List (List UInt8)
  | [] => []
  | b :: text =>
    if b = 10 then [10] :: lines text
    else
      match lines text with
      | [] => [[b]]
      | line :: rest => (b :: line) :: rest

def piecesLoop (n : ℕ) : ℕ → List UInt8 → List (List UInt8)
  | 0, _ => []
  | fuel + 1, text =>
    match fgets n text with
    | none => []
    | some (piece, rest) => cString piece :: piecesLoop n fuel rest

/-- The strings that `fgets` reads of a text with a buffer of `n` bytes -/
def pieces (n : ℕ) (text : List UInt8) : List (List UInt8) := piecesLoop n (text.length + 1) text

section

variable {n : ℕ} {text : List UInt8}

theorem firstLine_ne_nil (h : text ≠ []) : firstLine text ≠ [] := by
  obtain ⟨b, text, rfl⟩ := exists_cons_of_ne_nil h
  by_cases hb : b = 10
  · subst hb
    exact cons_ne_nil _ _
  · rw [firstLine, takeWhile_cons_of_pos (by simpa using hb)]
    exact cons_ne_nil _ _

theorem lines_eq (h : text ≠ []) :
    lines text = firstLine text :: lines (text.drop (firstLine text).length) := by
  induction text with
  | nil => exact absurd rfl h
  | cons b text ih =>
    by_cases hb : b = 10
    · subst hb
      rfl
    · have hfirst : firstLine (b :: text) = b :: firstLine text := by
        rw [firstLine, takeWhile_cons_of_pos (by simpa using hb),
          dropWhile_cons_of_pos (by simpa using hb)]
        rfl
      rw [lines, if_neg hb, hfirst, length_cons, drop_succ_cons]
      by_cases htext : text = []
      · subst htext
        rfl
      · rw [ih htext]

/-- What `fgets` reads first, with a buffer of at least two bytes -/
def firstPiece (n : ℕ) (text : List UInt8) : List UInt8 := (firstLine text).take (n - 1)

variable (hn : 2 ≤ n)
include hn

theorem fgets_of_ne_nil (h : text ≠ []) :
    fgets n text = some (firstPiece n text, text.drop (firstPiece n text).length) := by
  rw [fgets, if_neg (by omega), if_neg (by omega), if_neg h]
  rfl

theorem fgets_nil : fgets n [] = none := by
  rw [fgets, if_neg (by omega), if_neg (by omega), if_pos rfl]

/-- Something is read unless the file is at its end. -/
theorem length_rest_lt (h : text ≠ []) :
    (text.drop (firstPiece n text).length).length < text.length := by
  have hline := length_pos_of_ne_nil (firstLine_ne_nil h)
  have htext := length_pos_of_ne_nil h
  rw [firstPiece, length_drop, length_take]
  omega

theorem length_cString_firstPiece_lt (text : List UInt8) :
    (cString (firstPiece n text)).length < n := by
  have hle : (cString (firstPiece n text)).length ≤ (firstPiece n text).length :=
    (takeWhile_sublist _).length_le
  have hlength : (firstPiece n text).length ≤ n - 1 := length_take_le _ _
  omega

theorem piecesLoop_eq_pieces {fuel : ℕ} (hfuel : text.length < fuel) :
    piecesLoop n fuel text = pieces n text := by
  have hall : ∀ fuel fuel' text, text.length < fuel → text.length < fuel' →
      piecesLoop n fuel text = piecesLoop n fuel' text := by
    intro fuel
    induction fuel with
    | zero => exact fun _ _ h _ ↦ absurd h (Nat.not_lt_zero _)
    | succ fuel ih =>
      intro fuel' text h h'
      obtain ⟨fuel', rfl⟩ := Nat.exists_eq_succ_of_ne_zero (Nat.ne_zero_of_lt h')
      rw [piecesLoop, piecesLoop]
      by_cases htext : text = []
      · subst htext
        rw [fgets_nil hn]
      · have hlt := length_rest_lt hn htext
        rw [fgets_of_ne_nil hn htext]
        dsimp only
        rw [ih fuel' _ (by omega) (by omega)]
  exact hall _ _ _ hfuel (Nat.lt_succ_self _)

theorem pieces_nil : pieces n [] = [] := by
  rw [pieces, piecesLoop, fgets_nil hn]

theorem pieces_of_ne_nil (h : text ≠ []) :
    pieces n text =
      cString (firstPiece n text) :: pieces n (text.drop (firstPiece n text).length) := by
  rw [pieces, piecesLoop, fgets_of_ne_nil hn h]
  dsimp only
  rw [piecesLoop_eq_pieces hn (length_rest_lt hn h)]

/-- A text by its pieces -/
theorem pieces_induction {P : List UInt8 → Prop} (nil : P [])
    (cons : ∀ text, text ≠ [] → P (text.drop (firstPiece n text).length) → P text)
    (text : List UInt8) : P text := by
  induction hlength : text.length using Nat.strong_induction_on generalizing text with
  | _ length ih =>
    by_cases htext : text = []
    · rwa [htext]
    · exact cons text htext (ih _ (hlength ▸ length_rest_lt hn htext) _ rfl)

theorem length_lt_of_mem_pieces {piece : List UInt8} (h : piece ∈ pieces n text) :
    piece.length < n := by
  induction text using pieces_induction hn with
  | nil =>
    rw [pieces_nil hn] at h
    cases h
  | cons text htext ih =>
    rw [pieces_of_ne_nil hn htext] at h
    rcases mem_cons.mp h with rfl | h
    · exact length_cString_firstPiece_lt hn text
    · exact ih h

/-- Lines that fit into the buffer are read one at a time. -/
theorem pieces_eq_lines (h : ∀ line ∈ lines text, line.length < n) :
    pieces n text = (lines text).map cString := by
  induction text using pieces_induction hn with
  | nil => exact pieces_nil hn
  | cons text htext ih =>
    have heq := lines_eq htext
    rw [heq, forall_mem_cons] at h
    have htake : firstPiece n text = firstLine text := take_of_length_le (by omega)
    rw [pieces_of_ne_nil hn htext, heq, map_cons]
    rw [htake] at ih ⊢
    rw [ih h.2]

end

/-! ## The tokens of a buffer -/

def tokensLoop : ℕ → List UInt8 → List (List UInt8)
  | 0, _ => []
  | fuel + 1, str =>
    match strtok 10 str with
    | none => []
    | some (token, rest) => token :: tokensLoop fuel rest

/-- The lines of a buffer that are not empty, without newlines -/
def tokens (str : List UInt8) : List (List UInt8) := tokensLoop (str.length + 1) str

section

variable {str token rest : List UInt8}

/-- A token is taken from the text. -/
theorem length_strtok_lt {delim : UInt8} (h : strtok delim str = some (token, rest)) :
    rest.length < str.length := by
  have hdrop : (str.dropWhile (· == delim)).length ≤ str.length :=
    (dropWhile_sublist _).length_le
  rw [strtok] at h
  split_ifs at h with hnil
  obtain ⟨-, rfl⟩ := Prod.mk.inj (Option.some_inj.mp h)
  obtain ⟨b, text, htext⟩ := exists_cons_of_ne_nil hnil
  have hb : b ≠ delim := by
    have hhead := head_dropWhile_not (· == delim) hnil
    simp only [htext, head_cons] at hhead
    exact beq_eq_false_iff_ne.mp hhead
  have hle : (text.dropWhile (· ≠ delim)).length ≤ text.length :=
    (dropWhile_sublist _).length_le
  rw [htext, length_cons] at hdrop
  rw [htext, dropWhile_cons_of_pos (by simpa using hb), length_drop]
  omega

theorem tokensLoop_eq_tokens {fuel : ℕ} (hfuel : str.length < fuel) :
    tokensLoop fuel str = tokens str := by
  have hall : ∀ fuel fuel' str, str.length < fuel → str.length < fuel' →
      tokensLoop fuel str = tokensLoop fuel' str := by
    intro fuel
    induction fuel with
    | zero => exact fun _ _ h _ ↦ absurd h (Nat.not_lt_zero _)
    | succ fuel ih =>
      intro fuel' str h h'
      obtain ⟨fuel', rfl⟩ := Nat.exists_eq_succ_of_ne_zero (Nat.ne_zero_of_lt h')
      rw [tokensLoop, tokensLoop]
      cases htok : strtok 10 str with
      | none => rfl
      | some tok =>
        have hlt := length_strtok_lt htok
        dsimp only
        rw [ih fuel' _ (by omega) (by omega)]
  exact hall _ _ _ hfuel (Nat.lt_succ_self _)

theorem tokens_of_none (h : strtok 10 str = none) : tokens str = [] := by
  rw [tokens, tokensLoop, h]

theorem tokens_of_some (h : strtok 10 str = some (token, rest)) :
    tokens str = token :: tokens rest := by
  rw [tokens, tokensLoop, h]
  dsimp only
  rw [tokensLoop_eq_tokens (length_strtok_lt h)]

end

/-! ## What a line sets -/

section

variable {F : Type}

/-- The parameter has the name of the item, a variable and a type. -/
def LocParam.takes (entry : LocParam F) (value : ConfigValue F) : Bool :=
  entry.paramPtr.isSome && entry.paramName = value.paramName &&
    (entry.paramType = 's' || entry.paramType = 'n' || entry.paramType = 'f')

/-- The parameter after an item -/
def LocParam.put (n : ℕ) (value : ConfigValue F) (entry : LocParam F) : LocParam F :=
  (locSetConfigEntry n value entry).2

/-- The parameter after some items -/
def LocParam.putAll (n : ℕ) (items : List (ConfigValue F)) (entry : LocParam F) : LocParam F :=
  items.foldl (fun entry value ↦ entry.put n value) entry

variable {n : ℕ} {value value' : ConfigValue F} {entry : LocParam F} {table : List (LocParam F)}

/-- What `loc_set_config_entry` does in its cases -/
theorem locSetConfigEntry_cases (n : ℕ) (value : ConfigValue F) (entry : LocParam F) :
    (locSetConfigEntry n value entry).1 = entry.takes value ∧
    (entry.put n value).paramName = entry.paramName ∧
    (entry.put n value).paramType = entry.paramType ∧
    (entry.put n value).paramPtr.isSome = entry.paramPtr.isSome ∧
    (entry.takes value = false → entry.put n value = entry) ∧
    (entry.takes value = true →
      (entry.put n value).paramSet = entry.paramSet.map fun _ ↦ 1) := by
  obtain ⟨name, ptr, set, type⟩ := entry
  rw [LocParam.put, locSetConfigEntry, LocParam.takes]
  cases ptr with
  | none => simp
  | some var =>
    by_cases hname : name = value.paramName
    · dsimp only
      rw [if_pos hname, Option.isSome_some, Bool.true_and, decide_eq_true hname, Bool.true_and]
      split
      · split_ifs <;> simp
      · simp
      · simp
      · next hs hn hf =>
        have hs' : type ≠ 's' := hs
        have hn' : type ≠ 'n' := hn
        have hf' : type ≠ 'f' := hf
        simp [hs', hn', hf']
    · dsimp only
      rw [if_neg hname, decide_eq_false hname]
      simp

theorem takes_put (n : ℕ) (value value' : ConfigValue F) (entry : LocParam F) :
    (entry.put n value).takes value' = entry.takes value' := by
  obtain ⟨-, hname, htype, hptr, -⟩ := locSetConfigEntry_cases n value entry
  rw [LocParam.takes, LocParam.takes, hname, htype, hptr]

theorem put_of_not (n : ℕ) (h : entry.takes value = false) : entry.put n value = entry :=
  (locSetConfigEntry_cases n value entry).2.2.2.2.1 h

/-- Some parameter of the table takes the item. -/
def hits (table : List (LocParam F)) (value : ConfigValue F) : Bool :=
  table.any fun entry ↦ entry.takes value

theorem hits_map {f : LocParam F → LocParam F} (h : ∀ entry, (f entry).takes = entry.takes)
    (table : List (LocParam F)) : hits (table.map f) = hits table := by
  funext value
  rw [hits, any_map, hits]
  exact congrArg table.any (funext fun entry ↦ congrFun (h entry) value)

/-- In a table of distinct names at most one parameter takes an item. -/
theorem countP_takes (h : (table.map LocParam.paramName).Nodup) (value : ConfigValue F) :
    (table.countP fun entry ↦ entry.takes value) = if hits table value then 1 else 0 := by
  have hname : (table.countP fun entry ↦ entry.takes value) ≤
      table.countP fun entry ↦ entry.paramName == value.paramName := by
    refine countP_mono_left fun entry _ htakes ↦ ?_
    rw [LocParam.takes, Bool.and_eq_true, Bool.and_eq_true, decide_eq_true_iff] at htakes
    exact beq_iff_eq.mpr htakes.1.2
  have hcount := nodup_iff_count_le_one.mp h value.paramName
  rw [List.count, countP_map] at hcount
  have hle := hname.trans hcount
  cases hhits : hits table value with
  | true =>
    obtain ⟨entry, hmem, htakes⟩ := any_eq_true.mp hhits
    have hpos : 0 < table.countP fun entry ↦ entry.takes value :=
      countP_pos_iff.mpr ⟨entry, hmem, htakes⟩
    rw [if_pos rfl]
    omega
  | false =>
    rw [if_neg Bool.false_ne_true, countP_eq_zero]
    exact fun entry hmem htakes ↦
      Bool.false_ne_true (hhits.symm.trans (any_eq_true.mpr ⟨entry, hmem, htakes⟩))

/-! ## What the loops handle -/

variable (atof : List UInt8 → F) (zero : F)

/-- The items on some lines -/
def itemsOf (strs : List (List UInt8)) : List (ConfigValue F) :=
  strs.filterMap (configValue atof zero)

/-- Some parameter of the table takes the item on the line. -/
def counts (table : List (LocParam F)) (str : List UInt8) : Bool :=
  (configValue atof zero str).any (hits table)

variable {atof zero}

theorem itemsOf_cons (str : List UInt8) (strs : List (List UInt8)) :
    itemsOf atof zero (str :: strs) =
      (configValue atof zero str).toList ++ itemsOf atof zero strs := by
  rw [itemsOf, filterMap_cons]
  cases configValue atof zero str with
  | none => rfl
  | some value => rfl

variable (atof zero) in
/-- One line of a loop: what is left to count, and the table after it -/
theorem locFillConfItem_eq (n : ℕ) (h : (table.map LocParam.paramName).Nodup) (str : List UInt8) {k : ℕ}
    (hk : k ≠ 0) :
    countDown k (locFillConfItem atof zero n str table).1 =
        (if counts atof zero table str then k - 1 else k) ∧
      (locFillConfItem atof zero n str table).2 =
        table.map (LocParam.putAll n (configValue atof zero str).toList) := by
  rw [locFillConfItem, counts]
  cases configValue atof zero str with
  | none =>
    refine ⟨?_, ?_⟩
    · rw [Option.any_none, if_neg Bool.false_ne_true, countDown, if_pos (Nat.zero_le k),
        Nat.sub_zero]
    · exact (map_id' table).symm
  | some value =>
    refine ⟨?_, rfl⟩
    have hcount : (table.countP fun entry ↦ (locSetConfigEntry n value entry).1) =
        if hits table value then 1 else 0 := by
      rw [← countP_takes h]
      exact countP_congr fun entry _ ↦ by rw [(locSetConfigEntry_cases n value entry).1]
    dsimp only
    rw [hcount, countDown, Option.any_some]
    split_ifs <;> omega

theorem putAll_append (items items' : List (ConfigValue F)) (entry : LocParam F) :
    entry.putAll n (items ++ items') = (entry.putAll n items).putAll n items' :=
  foldl_append

theorem paramName_putAll (items : List (ConfigValue F)) (entry : LocParam F) :
    (entry.putAll n items).paramName = entry.paramName := by
  induction items generalizing entry with
  | nil => rfl
  | cons value items ih => exact (ih _).trans (locSetConfigEntry_cases n value entry).2.1

theorem takes_putAll (items : List (ConfigValue F)) (entry : LocParam F) :
    (entry.putAll n items).takes = entry.takes := by
  induction items generalizing entry with
  | nil => rfl
  | cons value items ih => exact (ih _).trans (funext fun value' ↦ takes_put n value value' entry)

theorem nodup_map_putAll (h : (table.map LocParam.paramName).Nodup) (items : List (ConfigValue F)) :
    ((table.map (LocParam.putAll n items)).map LocParam.paramName).Nodup := by
  rw [map_map]
  exact (congrArg List.Nodup (map_congr_left fun entry _ ↦ paramName_putAll items entry)).mpr h

theorem counts_map_putAll (items : List (ConfigValue F)) :
    counts atof zero (table.map (LocParam.putAll n items)) = counts atof zero table := by
  funext str
  rw [counts, hits_map (takes_putAll items), counts]

variable (atof zero)

/-- The reader handles the pieces up to the last one it counts, and leaves the others in the file. -/
theorem exists_readLoop_eq (hn : 2 ≤ n) {fuel : ℕ} (k : ℕ) {text : List UInt8}
    (hfuel : text.length < fuel) (h : (table.map LocParam.paramName).Nodup) :
    ∃ rest, readLoop atof zero n fuel k text table = some (rest, table.map (LocParam.putAll n
        (itemsOf atof zero (taken (counts atof zero table) k (pieces n text))))) ∧
      pieces n rest = left (counts atof zero table) k (pieces n text) := by
  induction fuel generalizing k text table with
  | zero => exact absurd hfuel (Nat.not_lt_zero _)
  | succ fuel ih =>
    rw [readLoop]
    by_cases hk : k = 0
    · subst hk
      rw [if_pos rfl, taken_zero, left_zero]
      exact ⟨text, congrArg some (Prod.ext rfl (map_id' table).symm), rfl⟩
    rw [if_neg hk]
    by_cases htext : text = []
    · subst htext
      rw [fgets_nil hn, pieces_nil hn]
      exact ⟨[], congrArg some (Prod.ext rfl (map_id' table).symm), pieces_nil hn⟩
    obtain ⟨hcount, hfilled⟩ :=
      locFillConfItem_eq atof zero n h (cString (firstPiece n text)) hk
    rw [fgets_of_ne_nil hn htext, pieces_of_ne_nil hn htext, taken, left, if_neg hk, if_neg hk]
    dsimp only
    rw [hcount, hfilled]
    obtain ⟨rest, hread, hrest⟩ := ih
      (if counts atof zero table (cString (firstPiece n text)) then k - 1 else k)
      ((length_rest_lt hn htext).trans_le (Nat.le_of_lt_succ hfuel)) (nodup_map_putAll h _)
    rw [counts_map_putAll] at hread hrest
    refine ⟨rest, hread.trans ?_, hrest⟩
    rw [itemsOf_cons, map_map]
    exact congrArg some (Prod.ext rfl (map_congr_left fun entry _ ↦
      (putAll_append _ _ entry).symm))

/-- The reader comes to an end, whatever the table is. -/
theorem exists_readLoop (hn : 2 ≤ n) {fuel : ℕ} (k : ℕ) {text : List UInt8}
    (hfuel : text.length < fuel) (table : List (LocParam F)) :
    ∃ read, readLoop atof zero n fuel k text table = some read := by
  induction fuel generalizing k text table with
  | zero => exact absurd hfuel (Nat.not_lt_zero _)
  | succ fuel ih =>
    rw [readLoop]
    split_ifs
    · exact ⟨_, rfl⟩
    by_cases htext : text = []
    · subst htext
      rw [fgets_nil hn]
      exact ⟨_, rfl⟩
    · rw [fgets_of_ne_nil hn htext]
      exact ih _ ((length_rest_lt hn htext).trans_le (Nat.le_of_lt_succ hfuel)) _

/-- The updater handles the tokens up to the last one it counts. -/
theorem updateLoop_eq (n : ℕ) {fuel : ℕ} (k : ℕ) {str : List UInt8} (hfuel : str.length < fuel)
    (h : (table.map LocParam.paramName).Nodup) :
    updateLoop atof zero n fuel k str table =
      ((taken (counts atof zero table) k (tokens str)).length, table.map (LocParam.putAll n
        (itemsOf atof zero (taken (counts atof zero table) k (tokens str))))) := by
  induction fuel generalizing k str table with
  | zero => exact absurd hfuel (Nat.not_lt_zero _)
  | succ fuel ih =>
    rw [updateLoop]
    cases htok : strtok 10 str with
    | none =>
      rw [tokens_of_none htok]
      exact Prod.ext rfl (map_id' table).symm
    | some tok =>
      obtain ⟨token, rest⟩ := tok
      have hrest := length_strtok_lt htok
      rw [tokens_of_some htok]
      dsimp only
      by_cases hk : k = 0
      · subst hk
        rw [if_pos rfl, taken_zero]
        exact Prod.ext rfl (map_id' table).symm
      obtain ⟨hcount, hfilled⟩ := locFillConfItem_eq atof zero n h token hk
      rw [if_neg hk, hcount, hfilled, ih _ (by omega) (nodup_map_putAll h _), counts_map_putAll,
        taken, if_neg hk, itemsOf_cons, map_map]
      exact Prod.ext rfl (map_congr_left fun entry _ ↦ (putAll_append _ _ entry).symm)

end

end MataDevice.Config
