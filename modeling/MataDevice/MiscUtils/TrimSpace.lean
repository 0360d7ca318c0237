import MataDevice.Config.Items

/-!
# Trimming a string in place

`loc_util_trim_space` moves what comes after the leading spaces of a string to its front, while it
looks for the last character that is no space, and puts the end of the string behind that one. In a
string of spaces alone there is none, and the string stays as it is.
-/

namespace MataDevice.MiscUtils

open List
open MataDevice.Config (cString locUtilTrimSpace)
open MataDevice.Numerals (isSpace)

/-- A buffer with a string in it -/
structure CBuffer where
  bytes : List UInt8
  terminated : 0 ∈ bytes

/-- The string without the spaces at its ends -/
def stripped (str : List UInt8) : List UInt8 := (str.dropWhile isSpace).rdropWhile isSpace

/-! ## The loop -/

/-- The pointers are offsets in the buffer. -/
structure TrimState where
  buf : List UInt8
  scanPtr : ℕ
  writePtr : ℕ
  firstNonspace : Option ℕ
  lastNonspace : Option ℕ

namespace TrimState

def init (buf : List UInt8) : TrimState := ⟨buf, 0, 0, none, none⟩

/-- One round, for the character at the scan pointer -/
def round (t : TrimState) (c : UInt8) : TrimState :=
  let firstNonspace :=
    if !isSpace c && t.firstNonspace.isNone then some t.scanPtr else t.firstNonspace
  if firstNonspace.isSome then
    { buf := t.buf.set t.writePtr c
      scanPtr := t.scanPtr + 1
      writePtr := t.writePtr + 1
      firstNonspace := firstNonspace
      lastNonspace := if !isSpace c then some (t.writePtr + 1) else t.lastNonspace }
  else { t with scanPtr := t.scanPtr + 1, firstNonspace := firstNonspace }

/-- The loop, which reads no byte behind the end of the buffer. It scans one byte in each round. -/
def loop : ℕ → TrimState → Option TrimState
  | 0, _ => none
  | rounds + 1, t =>
    match t.buf[t.scanPtr]? with
    | none => none
    | some c => if c = 0 then some t else loop rounds (t.round c)

end TrimState

/-- `loc_util_trim_space` on a buffer -/
def trimInPlace (buf : List UInt8) : Option (List UInt8) :=
  (TrimState.loop buf.length (.init buf)).map fun t ↦
    match t.lastNonspace with
    | some last => t.buf.set last 0
    | none => t.buf

/-! ## What the loop has done -/

/-- The text `read` has been scanned; the text `todo` comes next, with the end of the string. -/
structure Scanned (read todo rest : List UInt8) (t : TrimState) : Prop where
  scanPtr : t.scanPtr = read.length
  writePtr : t.writePtr = (read.dropWhile isSpace).length
  written : t.buf.take t.writePtr = read.dropWhile isSpace
  ahead : t.buf.drop t.scanPtr = todo ++ 0 :: rest
  first : t.firstNonspace.isSome = true ↔ read.dropWhile isSpace ≠ []
  last : t.lastNonspace =
    if read.dropWhile isSpace = [] then none else some (stripped read).length
  unmoved : read.dropWhile isSpace = [] → t.buf = read ++ (todo ++ 0 :: rest)

section

variable {read todo rest : List UInt8} {c : UInt8} {t : TrimState}

theorem Scanned.init (str rest : List UInt8) : Scanned [] str rest (.init (str ++ 0 :: rest)) :=
  ⟨rfl, rfl, rfl, rfl, by simp [TrimState.init], rfl, fun _ ↦ rfl⟩

theorem Scanned.getElem?_scanPtr (h : Scanned read (c :: todo) rest t) :
    t.buf[t.scanPtr]? = some c := by
  rw [← head?_drop, h.ahead]
  rfl

theorem Scanned.drop_succ (h : Scanned read (c :: todo) rest t) :
    t.buf.drop (t.scanPtr + 1) = todo ++ 0 :: rest := by
  rw [← drop_drop, h.ahead]
  rfl

theorem Scanned.writePtr_le (h : Scanned read todo rest t) : t.writePtr ≤ t.scanPtr := by
  rw [h.writePtr, h.scanPtr]
  exact (dropWhile_sublist isSpace).length_le

/-- A space before the first character that is none is passed over. -/
theorem Scanned.skip (h : Scanned read (c :: todo) rest t) (hread : read.dropWhile isSpace = [])
    (hc : isSpace c = true) : Scanned (read ++ [c]) todo rest (t.round c) := by
  have hnone : t.firstNonspace = none := by
    rw [← Option.not_isSome_iff_eq_none, h.first, hread]
    exact fun hne ↦ hne rfl
  have hdrop : (read ++ [c]).dropWhile isSpace = [] := by
    rw [dropWhile_append, hread]
    simp [hc]
  have hround : t.round c = { t with scanPtr := t.scanPtr + 1 } := by
    simp [TrimState.round, hnone, hc]
  have hdropSucc := h.drop_succ
  obtain ⟨hscan, hwrite, hwritten, -, -, hlast, hunmoved⟩ := h
  rw [hread] at hwrite hwritten hlast
  refine ⟨?_, ?_, ?_, ?_, ?_, ?_, fun _ ↦ ?_⟩
  · simp [hround, hscan]
  · rw [hdrop, hround, hwrite]
  · rw [hdrop, hround]
    exact hwritten
  · rw [hround]
    exact hdropSucc
  · simp [hround, hnone, hdrop]
  · rw [hdrop, hround]
    exact hlast
  · rw [hround, append_assoc]
    exact hunmoved hread

/-- The other characters are moved to the front. -/
theorem Scanned.shift (h : Scanned read (c :: todo) rest t)
    (hc : read.dropWhile isSpace ≠ [] ∨ isSpace c = false) :
    Scanned (read ++ [c]) todo rest (t.round c) := by
  have hdrop : (read ++ [c]).dropWhile isSpace = read.dropWhile isSpace ++ [c] := by
    rw [dropWhile_append]
    rcases hc with hne | hc
    · rw [if_neg (by simpa using hne)]
    · by_cases hread : read.dropWhile isSpace = []
      · simp [hread, hc]
      · rw [if_neg (by simpa using hread)]
  have hne : (read ++ [c]).dropWhile isSpace ≠ [] := by
    rw [hdrop]
    exact concat_ne_nil _ _
  have hsome : (if (!isSpace c && t.firstNonspace.isNone) = true then some t.scanPtr
      else t.firstNonspace).isSome = true := by
    by_cases hfirst : t.firstNonspace.isSome = true
    · split
      · rfl
      · exact hfirst
    · have hread : read.dropWhile isSpace = [] := by
        by_contra hread
        exact hfirst (h.first.mpr hread)
      have hspace : isSpace c = false := hc.resolve_left fun hne ↦ hne hread
      rw [if_pos (by simp [hspace, Option.not_isSome_iff_eq_none.mp hfirst])]
      rfl
  have hlt : t.writePtr < t.buf.length := by
    obtain ⟨hscan, -⟩ := List.getElem?_eq_some_iff.mp h.getElem?_scanPtr
    exact h.writePtr_le.trans_lt hscan
  have hround : t.round c =
      { buf := t.buf.set t.writePtr c
        scanPtr := t.scanPtr + 1
        writePtr := t.writePtr + 1
        firstNonspace := if (!isSpace c && t.firstNonspace.isNone) = true then some t.scanPtr
          else t.firstNonspace
        lastNonspace := if (!isSpace c) = true then some (t.writePtr + 1) else t.lastNonspace } := by
    rw [TrimState.round]
    exact if_pos hsome
  refine ⟨?_, ?_, ?_, ?_, ?_, ?_, fun hnil ↦ absurd hnil hne⟩
  · simp [hround, h.scanPtr]
  · simp [hround, hdrop, h.writePtr]
  · rw [hround, hdrop]
    dsimp only
    rw [take_add_one, take_set_of_le le_rfl, h.written, getElem?_set_self hlt]
    rfl
  · rw [hround]
    dsimp only
    rw [drop_set_of_lt (Nat.lt_succ_of_le h.writePtr_le), h.drop_succ]
  · rw [hround]
    exact iff_of_true hsome hne
  · rw [hround, if_neg hne]
    dsimp only
    rw [stripped, hdrop]
    cases hspace : isSpace c with
    | true =>
      rw [rdropWhile_concat_pos _ _ _ hspace, h.last]
      have hread : read.dropWhile isSpace ≠ [] := hc.resolve_right (by simp [hspace])
      rw [if_neg hread]
      rfl
    | false =>
      rw [rdropWhile_concat_neg _ _ _ (by simp [hspace]), h.writePtr]
      simp

theorem Scanned.round (h : Scanned read (c :: todo) rest t) :
    Scanned (read ++ [c]) todo rest (t.round c) := by
  by_cases hread : read.dropWhile isSpace = []
  · cases hc : isSpace c with
    | true => exact h.skip hread hc
    | false => exact h.shift (.inr hc)
  · exact h.shift (.inl hread)

/-- The loop comes to the end of the string. -/
theorem Scanned.loop (h : Scanned read todo rest t) (htodo : 0 ∉ todo) {rounds : ℕ}
    (hrounds : todo.length < rounds) :
    ∃ t', t.loop rounds = some t' ∧ Scanned (read ++ todo) [] rest t' := by
  induction todo generalizing read t rounds with
  | nil =>
    obtain ⟨rounds, rfl⟩ := Nat.exists_eq_add_one_of_ne_zero (Nat.ne_zero_of_lt hrounds)
    have hend : t.buf[t.scanPtr]? = some 0 := by
      rw [← head?_drop, h.ahead]
      rfl
    refine ⟨t, ?_, by rwa [List.append_nil]⟩
    rw [TrimState.loop, hend]
    rfl
  | cons c todo ih =>
    obtain ⟨rounds, rfl⟩ := Nat.exists_eq_add_one_of_ne_zero (Nat.ne_zero_of_lt hrounds)
    obtain ⟨hc, htodo⟩ := not_or.mp fun h ↦ htodo (mem_cons.mpr h)
    obtain ⟨t', hloop, hscanned⟩ := ih h.round htodo (Nat.lt_of_succ_lt_succ hrounds)
    refine ⟨t', ?_, by rwa [append_assoc] at hscanned⟩
    rw [TrimState.loop, h.getElem?_scanPtr]
    dsimp only
    rw [if_neg (Ne.symm hc), hloop]

theorem isPrefix_stripped (str : List UInt8) : stripped str <+: str.dropWhile isSpace :=
  rdropWhile_prefix _ _

theorem cString_append (h : 0 ∉ read) (rest : List UInt8) : cString (read ++ 0 :: rest) = read := by
  have hne : ∀ b ∈ read, decide (b ≠ 0) = true := fun b hb ↦
    decide_eq_true fun h0 ↦ h (h0 ▸ hb)
  rw [cString, takeWhile_append_of_pos hne]
  simp

theorem not_mem_stripped {str : List UInt8} (h : 0 ∉ str) : 0 ∉ stripped str := fun hmem ↦
  h ((dropWhile_sublist isSpace).mem ((isPrefix_stripped str).sublist.mem hmem))

theorem dropWhile_eq_nil_iff_all (str : List UInt8) :
    str.dropWhile isSpace = [] ↔ str.all isSpace = true := by
  rw [dropWhile_eq_nil_iff, all_eq_true]

/-- The loop does what the closed form says. -/
theorem trimInPlace_eq {str : List UInt8} (h : 0 ∉ str) (rest : List UInt8) :
    ∃ buf, trimInPlace (str ++ 0 :: rest) = some buf ∧ 0 ∈ buf ∧
      cString buf = locUtilTrimSpace str := by
  have hrounds : str.length < (str ++ 0 :: rest).length := by simp
  obtain ⟨t, hloop, ht⟩ := (Scanned.init str rest).loop h hrounds
  rw [nil_append] at ht
  have hlast := ht.last
  rw [trimInPlace, hloop, Option.map_some, locUtilTrimSpace]
  by_cases hall : str.dropWhile isSpace = []
  · rw [if_pos hall] at hlast
    rw [hlast, if_pos ((dropWhile_eq_nil_iff_all str).mp hall)]
    have hbuf : t.buf = str ++ 0 :: rest := ht.unmoved hall
    exact ⟨t.buf, rfl, by simp [hbuf], by rw [hbuf, cString_append h]⟩
  · rw [if_neg hall] at hlast
    rw [hlast, if_neg fun h ↦ hall ((dropWhile_eq_nil_iff_all str).mpr h)]
    have hle : (stripped str).length ≤ t.writePtr := by
      rw [ht.writePtr]
      exact (isPrefix_stripped str).length_le
    have hlt : (stripped str).length < t.buf.length := by
      refine (hle.trans ht.writePtr_le).trans_lt ?_
      have hahead := congrArg List.length ht.ahead
      rw [length_drop] at hahead
      simp only [nil_append, length_cons] at hahead
      omega
    have htake : t.buf.take (stripped str).length = stripped str := by
      rw [← min_eq_left hle, ← take_take, ht.written]
      exact (prefix_iff_eq_take.mp (isPrefix_stripped str)).symm
    have hset : t.buf.set (stripped str).length 0 =
        stripped str ++ 0 :: t.buf.drop ((stripped str).length + 1) := by
      rw [set_eq_take_append_cons_drop, if_pos hlt, htake]
    refine ⟨t.buf.set (stripped str).length 0, rfl, ?_, ?_⟩
    · rw [hset]
      simp
    · rw [hset, cString_append (not_mem_stripped h)]
      rfl

end

/-! ## When the string is stripped -/

theorem stripped_stripped (str : List UInt8) : stripped (stripped str) = stripped str := by
  have hdrop : (stripped str).dropWhile isSpace = stripped str := by
    refine dropWhile_eq_self_iff.mpr fun hpos ↦ ?_
    have hhead := (isPrefix_stripped str).getElem hpos
    have hne : str.dropWhile isSpace ≠ [] := fun hnil ↦ by
      have := (isPrefix_stripped str).length_le
      rw [hnil, length_nil] at this
      omega
    rw [hhead]
    have := head_dropWhile_not isSpace hne
    rw [head_eq_getElem] at this
    rw [this]
    exact Bool.false_ne_true
  rw [stripped, hdrop]
  exact rdropWhile_idempotent _ _

/-- The string is stripped where it is not made of spaces alone. -/
theorem locUtilTrimSpace_eq_stripped_iff (str : List UInt8) :
    locUtilTrimSpace str = stripped str ↔ str = [] ∨ ∃ c ∈ str, isSpace c = false := by
  rw [locUtilTrimSpace]
  by_cases hall : str.all isSpace = true
  · rw [if_pos hall]
    have hstripped : stripped str = [] := by
      rw [stripped, (dropWhile_eq_nil_iff_all str).mpr hall, rdropWhile_nil]
    rw [hstripped]
    refine (or_iff_left ?_).symm
    rintro ⟨c, hc, hspace⟩
    rw [all_eq_true.mp hall c hc] at hspace
    exact Bool.noConfusion hspace
  · rw [if_neg hall]
    refine iff_of_true rfl (.inr ?_)
    simpa using hall

theorem locUtilTrimSpace_idempotent (str : List UInt8) :
    locUtilTrimSpace (locUtilTrimSpace str) = locUtilTrimSpace str := by
  by_cases hall : str.all isSpace = true
  · have htrim : locUtilTrimSpace str = str := if_pos hall
    rw [htrim, htrim]
  · have htrim : locUtilTrimSpace str = stripped str := if_neg hall
    rw [htrim, locUtilTrimSpace]
    split
    · rfl
    · exact stripped_stripped str

/-- The call strips the string in the buffer, and a second one leaves it as it is. -/
def Strips (buf : List UInt8) : Prop :=
  ∃ buf', trimInPlace buf = some buf' ∧ cString buf' = stripped (cString buf) ∧
    ∃ buf'', trimInPlace buf' = some buf'' ∧ cString buf'' = cString buf'

theorem CBuffer.bytes_eq (buf : CBuffer) :
    0 ∉ cString buf.bytes ∧ ∃ rest, buf.bytes = cString buf.bytes ++ 0 :: rest := by
  refine ⟨fun hmem ↦ by simpa using mem_takeWhile_imp hmem, ?_⟩
  have happend := takeWhile_append_dropWhile (p := (· ≠ 0)) (l := buf.bytes)
  cases hrest : buf.bytes.dropWhile (· ≠ 0) with
  | nil =>
    have hall := dropWhile_eq_nil_iff.mp hrest 0 buf.terminated
    simp at hall
  | cons c rest =>
    have hc := head?_dropWhile_not (fun b : UInt8 ↦ decide (b ≠ 0)) buf.bytes
    rw [hrest] at hc happend
    obtain rfl : c = 0 := by simpa using hc
    exact ⟨rest, happend.symm⟩

/-- The string is stripped just if it is empty or has a character that is no space. -/
theorem strips_iff (buf : CBuffer) :
    Strips buf.bytes ↔
      cString buf.bytes = [] ∨ ∃ c ∈ cString buf.bytes, isSpace c = false := by
  obtain ⟨hstr, rest, hbytes⟩ := buf.bytes_eq
  obtain ⟨buf', htrim, hmem, hcstr⟩ := trimInPlace_eq hstr rest
  rw [← hbytes] at htrim
  rw [← locUtilTrimSpace_eq_stripped_iff]
  constructor
  · rintro ⟨out, hout, hstripped, -⟩
    obtain rfl : buf' = out := Option.some.inj (htrim.symm.trans hout)
    rw [← hcstr, hstripped]
  · intro heq
    obtain ⟨hstr', rest', hbytes'⟩ := (CBuffer.mk buf' hmem).bytes_eq
    obtain ⟨buf'', htrim', -, hcstr'⟩ := trimInPlace_eq hstr' rest'
    rw [← hbytes'] at htrim'
    refine ⟨buf', htrim, hcstr.trans heq, buf'', htrim', ?_⟩
    rw [hcstr', hcstr, locUtilTrimSpace_idempotent]

/-- One space is left as it is. -/
theorem not_strips_space : ¬ ∀ buf : CBuffer, Strips buf.bytes := by
  intro h
  obtain ⟨buf, htrim, hstr, -⟩ := h ⟨[32, 0], by decide⟩
  have hkept : trimInPlace [32, 0] = some [32, 0] := by decide
  obtain rfl := Option.some.inj (hkept.symm.trans htrim)
  exact absurd hstr (by decide)

end MataDevice.MiscUtils
