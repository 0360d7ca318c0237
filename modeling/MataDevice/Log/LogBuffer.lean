import MataDevice.Lib.History
import MataDevice.Log.SkipList

/-!
# The log buffer

`LogBuffer` keeps the latest lines of the log in a `SkipList`, and counts the lines of each level on
its own. A new line drives out the old ones of its level: those that are too old, and the first ones
if there are too many. The count should be that of the lines of the level, and not exceed the
maximum.

It is, as long as `flush` is only called while the buffer is empty. `flush` empties the list and
leaves the counts as they are, and from then on a level is taken to be full before it is. With the
counts too high, `append` may drive out the very line it has added, and reads the first line of a
level without lines.

Ages are differences of unsigned numbers, so that a line from the future is very old. The new line
itself is never too old, and one line is never too many, so that it stays.
-/

namespace MataDevice.Log

open List
open Option (bind_eq_bind bind_some some_inj)

/-- `TOTAL_LOG_LEVELS`. -/
abbrev totalLogLevels : ℕ := 5

structure ConfigsInLevel where
  mTimeDepthThres : UInt32
  mMaxNumThres : UInt32
  /-- an `int` -/
  mCurrentSize : ℤ

structure LogBuffer where
  mLogList : SkipList (UInt64 × String) totalLogLevels
  mConfigVec : Fin totalLogLevels → ConfigsInLevel

namespace LogBuffer

/-- The buffer with the thresholds that were read from the configuration. -/
def initial (timeDepth maxCapacity : Fin totalLogLevels → UInt32) : LogBuffer where
  mLogList := .empty
  mConfigVec level := ⟨timeDepth level, maxCapacity level, 0⟩

/-- Add to `mCurrentSize`, which must not overflow. -/
def addSize (s : LogBuffer) (level : Fin totalLogLevels) (d : ℤ) : Option LogBuffer :=
  let config := s.mConfigVec level
  let size := config.mCurrentSize + d
  if -2 ^ 31 ≤ size ∧ size < 2 ^ 31 then
    some { s with
      mConfigVec := Function.update s.mConfigVec level { config with mCurrentSize := size } }
  else none

/-- Whether the first line of a level has to go. The size is converted to an unsigned number. -/
def exceeds (config : ConfigsInLevel) (timestamp first : UInt64) : Prop :=
  config.mTimeDepthThres.toUInt64 < timestamp - first ∨
    config.mMaxNumThres.toNat < (config.mCurrentSize % 2 ^ 32).toNat

instance (config : ConfigsInLevel) (timestamp first : UInt64) :
    Decidable (exceeds config timestamp first) :=
  inferInstanceAs (Decidable (_ ∨ _))

/-- The loop of `append`. It removes a line in every round, or reads one where there is none, so
that it ends within as many rounds as there are lines. -/
def evict (level : Fin totalLogLevels) (timestamp : UInt64) : ℕ → LogBuffer → Option LogBuffer
  | 0, _ => none
  | rounds + 1, s => do
    let front ← s.mLogList.front level
    if exceeds (s.mConfigVec level) timestamp front.1 then
      let mLogList ← s.mLogList.pop level
      let s ← { s with mLogList := mLogList }.addSize level (-1)
      evict level timestamp rounds s
    else some s

/-- `append`, with the address that the new node gets. -/
def append (s : LogBuffer) (addr : ℕ) (data : String) (level : Fin totalLogLevels)
    (timestamp : UInt64) : Option LogBuffer := do
  let mLogList ← s.mLogList.append addr (timestamp, data) (level : ℕ)
  let s ← { s with mLogList := mLogList }.addSize level 1
  s.evict level timestamp (mLogList.mMainList.length + 1)

def mLevelMap : Fin totalLogLevels → String := ![ "E", "W", "I", "D", "V"]

/-- The lines of `dump`, of one level or of all of them, for which the level is `-1`. -/
def dump (s : LogBuffer) (level : Option (Fin totalLogLevels)) : Option (List String) := do
  let li ← match level with
    | none => some s.mLogList.dump
    | some level => s.mLogList.dumpLevel level
  let number : ℤ := level.elim (-1) fun level ↦ (level : ℕ)
  some (("dump log buffer, level[" ++ toString number ++ "], buffer size: " ++ toString li.length
      ++ "\n") ::
    li.map fun item ↦
      "[" ++ toString item.1.1 ++ "] Level " ++ mLevelMap item.2 ++ ": " ++ item.1.2 ++ "\n")

def flush (s : LogBuffer) : LogBuffer := { s with mLogList := s.mLogList.flush }

inductive Event
  | append (addr : ℕ) (data : String) (level : Fin totalLogLevels) (timestamp : UInt64)
  | dump (level : Option (Fin totalLogLevels))
  | flush

/-- The addresses in use. -/
def addrs (s : LogBuffer) : List ℕ := s.mLogList.mMainList.map Prod.fst

/-- A call, with the lines it writes. The allocator does not give an address that is in use. -/
def step (s : LogBuffer) : Event → Option (LogBuffer × List String)
  | .append addr data level timestamp =>
    if addr ∈ s.addrs then none else (s.append addr data level timestamp).map (·, [])
  | .dump level => (s.dump level).map (s, ·)
  | .flush => some (s.flush, [])

/-- The buffer is flushed only while it is empty, and no level is filled until its count
overflows. -/
def Careful (s : LogBuffer) : Event → Prop
  | .append _ _ level _ => (s.mConfigVec level).mCurrentSize < 2 ^ 31 - 1
  | .dump _ => True
  | .flush => s.mLogList.mMainList = []

instance (s : LogBuffer) : DecidablePred s.Careful
  | .append .. => inferInstanceAs (Decidable (_ < _))
  | .dump _ => .isTrue trivial
  | .flush => inferInstanceAs (Decidable (_ = _))

variable {s s' : LogBuffer} {es : List (Entry (UInt64 × String) totalLogLevels)}
  {level : Fin totalLogLevels}

/-- The list has the given entries, and the counts are those of the levels. -/
structure Counts (s : LogBuffer) (es : List (Entry (UInt64 × String) totalLogLevels)) : Prop where
  list : s.mLogList = .of es
  apart : Apart es
  counts : ∀ level, (s.mConfigVec level).mCurrentSize = (ofLevel level es).length

/-- The thresholds are the same. -/
def SameThresholds (s s' : LogBuffer) : Prop :=
  ∀ level, (s'.mConfigVec level).mTimeDepthThres = (s.mConfigVec level).mTimeDepthThres ∧
    (s'.mConfigVec level).mMaxNumThres = (s.mConfigVec level).mMaxNumThres

theorem SameThresholds.trans {s'' : LogBuffer} (h : SameThresholds s s')
    (h' : SameThresholds s' s'') : SameThresholds s s'' := fun level ↦
  ⟨(h' level).1.trans (h level).1, (h' level).2.trans (h level).2⟩

/-- An addition that does not overflow changes one count. -/
theorem addSize_spec {d : ℤ} (hlow : -2 ^ 31 ≤ (s.mConfigVec level).mCurrentSize + d)
    (hhigh : (s.mConfigVec level).mCurrentSize + d < 2 ^ 31) :
    ∃ s', s.addSize level d = some s' ∧ s'.mLogList = s.mLogList ∧ SameThresholds s s' ∧
      ∀ l, (s'.mConfigVec l).mCurrentSize
        = (s.mConfigVec l).mCurrentSize + if l = level then d else 0 := by
  rw [addSize, if_pos ⟨hlow, hhigh⟩]
  refine ⟨_, rfl, rfl, fun l ↦ ?_, fun l ↦ ?_⟩
  · by_cases hl : l = level
    · subst hl
      simp
    · simp [hl]
  · by_cases hl : l = level
    · subst hl
      simp
    · simp [hl]

variable {timestamp : UInt64} {e : Entry (UInt64 × String) totalLogLevels}

/-- The new line is not too old, and alone it is not too many. -/
theorem not_exceeds_self {config : ConfigsInLevel}
    (hmax : 1 ≤ config.mMaxNumThres.toNat) (hsize : config.mCurrentSize = 1) :
    ¬exceeds config timestamp timestamp := by
  rw [exceeds, UInt64.sub_self, hsize]
  rintro (hage | hnum)
  · exact UInt64.not_lt_zero hage
  · have hone : (1 % 2 ^ 32 : ℤ).toNat = 1 := rfl
    omega

/-- A round of the loop that removes a line. -/
theorem Counts.pop (h : Counts s es) (hpos : ofLevel level es ≠ [])
    (hlt : (ofLevel level es).length < 2 ^ 31) :
    ∃ mLogList s', s.mLogList.pop level = some mLogList ∧
      { s with mLogList := mLogList }.addSize level (-1) = some s' ∧
      Counts s' (es.eraseP fun e ↦ e.mLevel = level) ∧ SameThresholds s s' := by
  have hlen := length_pos_of_ne_nil hpos
  have hsize := h.counts level
  set popped : LogBuffer := { s with mLogList := .of (es.eraseP fun e ↦ e.mLevel = level) }
  have hpopped : (popped.mConfigVec level).mCurrentSize = (ofLevel level es).length := hsize
  obtain ⟨s', hadd, hlist, hsame, hcounts⟩ : ∃ s', popped.addSize level (-1) = some s' ∧ _ :=
    addSize_spec (by omega) (by omega)
  refine ⟨_, s', ?_, hadd, ⟨hlist, h.apart.eraseP level, fun l ↦ ?_⟩, hsame⟩
  · rw [h.list, SkipList.pop_of h.apart]
  · refine (hcounts l).trans ?_
    have hl : (popped.mConfigVec l).mCurrentSize = (ofLevel l es).length := h.counts l
    rw [hl, ofLevel_eraseP]
    split
    · next hl =>
      rw [hl, length_tail]
      omega
    · exact Int.add_zero _

/-- The loop ends with the new line still there, if it was the last one of its level. -/
theorem evict_spec {li : List (Entry (UInt64 × String) totalLogLevels)} {rounds : ℕ} (h : Counts s es)
    (hli : ofLevel level es = li ++ [e]) (he : e.mData.1 = timestamp)
    (hmax : 1 ≤ (s.mConfigVec level).mMaxNumThres.toNat) (hlt : li.length + 1 < 2 ^ 31)
    (hr : li.length < rounds) :
    ∃ s' es', s.evict level timestamp rounds = some s' ∧ Counts s' es' ∧ SameThresholds s s' ∧
      (ofLevel level es').length ≤ (s.mConfigVec level).mMaxNumThres.toNat ∧
      ∀ l, l ≠ level → ofLevel l es' = ofLevel l es := by
  -- by induction on the lines in front of the new one
  induction li generalizing s es rounds with
  | nil =>
    obtain ⟨rounds, rfl⟩ := Nat.exists_eq_add_one_of_ne_zero (Nat.ne_zero_of_lt hr)
    have hsize : (s.mConfigVec level).mCurrentSize = 1 := by
      rw [h.counts, hli]
      rfl
    have hfront : s.mLogList.front level = some e.mData := by
      rw [h.list, SkipList.front_of h.apart, hli]
      rfl
    refine ⟨s, es, ?_, h, fun _ ↦ ⟨rfl, rfl⟩, ?_, fun _ _ ↦ rfl⟩
    · rw [evict, hfront, bind_eq_bind, bind_some, he,
        if_neg (not_exceeds_self hmax hsize)]
    · rw [hli]
      exact hmax
  | cons f li ih =>
    obtain ⟨rounds, rfl⟩ := Nat.exists_eq_add_one_of_ne_zero (Nat.ne_zero_of_lt hr)
    have hlen : (ofLevel level es).length = li.length + 2 := by
      rw [hli]
      simp
    have hfront : s.mLogList.front level = some f.mData := by
      rw [h.list, SkipList.front_of h.apart, hli]
      rfl
    rw [length_cons] at hlt hr
    by_cases hexceeds : exceeds (s.mConfigVec level) timestamp f.mData.1
    · have hne : ofLevel level es ≠ [] := by simp [hli]
      obtain ⟨mLogList, s₁, hpop, hadd, hcounts, hsame⟩ := h.pop hne (by omega)
      have hthres := (hsame level).2
      have hrest : ofLevel level (es.eraseP fun e ↦ e.mLevel = level) = li ++ [e] := by
        rw [ofLevel_eraseP, if_pos rfl, hli]
        rfl
      obtain ⟨s', es', hevict, hcounts', hsame', hle, hother⟩ :=
        ih hcounts hrest (by rw [hthres]; exact hmax) (by omega) (by omega : li.length < rounds)
      refine ⟨s', es', ?_, hcounts', hsame.trans hsame', hthres ▸ hle, fun l hl ↦ ?_⟩
      · rw [evict, hfront, bind_eq_bind, bind_some, if_pos hexceeds, hpop]
        simp only [bind_eq_bind, bind_some, hadd, hevict]
      · rw [hother l hl, ofLevel_eraseP, if_neg hl]
    · refine ⟨s, es, ?_, h, fun _ ↦ ⟨rfl, rfl⟩, ?_, fun _ _ ↦ rfl⟩
      · rw [evict, hfront, bind_eq_bind, bind_some, if_neg hexceeds]
      · rw [exceeds, h.counts, hlen] at hexceeds
        rw [hlen]
        omega

/-! ## Whole runs -/

/-- The counts are those of the lines, and no level has too many. -/
def Bookkept (s : LogBuffer) : Prop :=
  ∃ es, Counts s es ∧
    ∀ level, (ofLevel level es).length ≤ (s.mConfigVec level).mMaxNumThres.toNat

theorem Bookkept.initial (timeDepth maxCapacity : Fin totalLogLevels → UInt32) :
    Bookkept (initial timeDepth maxCapacity) :=
  ⟨[], ⟨rfl, nodup_nil, fun _ ↦ rfl⟩, fun _ ↦ Nat.zero_le _⟩

theorem Counts.addrs (h : Counts s es) : s.addrs = es.map Entry.addr := by
  rw [LogBuffer.addrs, h.list]
  exact map_fst_thread es

/-- The new line, before others are driven out. -/
theorem Counts.push (h : Counts s es)
    (haddr : e.addr ∉ s.addrs) (hlt : (s.mConfigVec e.mLevel).mCurrentSize < 2 ^ 31 - 1) :
    s.mLogList.append e.addr e.mData (e.mLevel : ℕ) = some (.of (es ++ [e])) ∧
      ∃ s', { s with mLogList := .of (es ++ [e]) }.addSize e.mLevel 1 = some s' ∧
        Counts s' (es ++ [e]) ∧ SameThresholds s s' := by
  rw [h.addrs] at haddr
  have hapart : Apart (es ++ [e]) := by
    rw [Apart, map_append]
    exact h.apart.append (nodup_singleton _) (by simpa using haddr)
  set pushed : LogBuffer := { s with mLogList := .of (es ++ [e]) }
  have hsize : ∀ l, (pushed.mConfigVec l).mCurrentSize = (ofLevel l es).length := h.counts
  have hpushed : (pushed.mConfigVec e.mLevel).mCurrentSize < 2 ^ 31 - 1 := hlt
  have hnonneg := hsize e.mLevel
  obtain ⟨s', hadd, hlist, hsame, hcounts⟩ : ∃ s', pushed.addSize e.mLevel 1 = some s' ∧ _ :=
    addSize_spec (by omega) (by omega)
  refine ⟨?_, s', hadd, ⟨hlist, hapart, fun l ↦ ?_⟩, hsame⟩
  · rw [h.list, SkipList.append_of hapart]
  · refine (hcounts l).trans ?_
    rw [hsize]
    split
    · next hl => rw [ofLevel_concat_of_eq hl.symm, length_append, length_singleton,
        Nat.cast_add, Nat.cast_one]
    · next hl => rw [ofLevel_concat_of_ne (Ne.symm hl), Int.add_zero]

/-- A count that does not overflow lets `append` go through. -/
theorem Bookkept.append (h : Bookkept s) {addr : ℕ} (haddr : addr ∉ s.addrs)
    (hmax : 1 ≤ (s.mConfigVec level).mMaxNumThres.toNat)
    (hlt : (s.mConfigVec level).mCurrentSize < 2 ^ 31 - 1) (data : String) (timestamp : UInt64) :
    ∃ s', s.append addr data level timestamp = some s' ∧ Bookkept s' ∧ SameThresholds s s' := by
  obtain ⟨es, hcounts, hle⟩ := h
  let e : Entry (UInt64 × String) totalLogLevels := ⟨addr, level, (timestamp, data)⟩
  obtain ⟨hpush, s₁, hadd, hcounts₁, hsame₁⟩ := hcounts.push (e := e) haddr hlt
  have hsize := hcounts.counts level
  have hthres := (hsame₁ level).2
  have hnew : ofLevel level (es ++ [e]) = ofLevel level es ++ [e] := ofLevel_concat_of_eq rfl
  have hrounds : (ofLevel level es).length < (es ++ [e]).length + 1 := by
    have hall : (ofLevel level es).length ≤ es.length := length_filter_le ..
    rw [length_append]
    omega
  obtain ⟨s', es', hevict, hcounts', hsame', hle', hother⟩ :=
    evict_spec hcounts₁ hnew rfl (by rw [hthres]; exact hmax) (by omega) hrounds
  have hsame := hsame₁.trans hsame'
  refine ⟨s', ?_, ⟨es', hcounts', fun l ↦ ?_⟩, hsame⟩
  · have hpush : s.mLogList.append addr (timestamp, data) (level : ℕ) = some (.of (es ++ [e])) :=
      hpush
    have hadd : { s with mLogList := .of (es ++ [e]) }.addSize level 1 = some s₁ := hadd
    have hlength : (SkipList.of (es ++ [e])).mMainList.length = (es ++ [e]).length :=
      length_thread _
    rw [LogBuffer.append, hpush, bind_eq_bind, bind_some, hadd, bind_eq_bind,
      bind_some, hlength, hevict]
  · rw [(hsame l).2]
    by_cases hl : l = level
    · rw [hl, ← hthres]
      exact hle'
    · rw [hother l hl, ofLevel_concat_of_ne (Ne.symm hl)]
      exact hle l

/-- What a caller sees of it: `dump` of a level gives the lines of the level, and their number is
the count. -/
def Consistent (s : LogBuffer) : Prop :=
  ∀ level, ∃ li, s.mLogList.dumpLevel level = some li ∧
    li = s.mLogList.dump.filter (fun item ↦ item.2 = level) ∧
    (s.mConfigVec level).mCurrentSize = li.length ∧
    li.length ≤ (s.mConfigVec level).mMaxNumThres.toNat

theorem Bookkept.consistent (h : Bookkept s) : s.Consistent := by
  intro level
  obtain ⟨es, hcounts, hle⟩ := h
  refine ⟨(ofLevel level es).map fun e ↦ (e.mData, e.mLevel), ?_, ?_, ?_, ?_⟩
  · rw [hcounts.list, SkipList.dumpLevel_of hcounts.apart]
  · rw [hcounts.list, SkipList.dump_of, filter_map]
    rfl
  · rw [hcounts.counts, length_map]
  · rw [length_map]
    exact hle level

theorem Counts.mMainList_eq_nil (h : Counts s es) : s.mLogList.mMainList = [] ↔ es = [] := by
  rw [h.list, ← length_eq_zero_iff, ← length_eq_zero_iff, ← length_thread es]
  rfl

theorem Bookkept.flush (h : Bookkept s) (hnil : s.mLogList.mMainList = []) : Bookkept s.flush := by
  obtain ⟨es, hcounts, hle⟩ := h
  obtain rfl := hcounts.mMainList_eq_nil.mp hnil
  exact ⟨[], ⟨rfl, nodup_nil, hcounts.counts⟩, hle⟩

/-- To flush the buffer leaves the counts right only if there is nothing in it. -/
theorem Bookkept.eq_nil_of_flush (h : Bookkept s) (hflush : s.flush.Consistent) :
    s.mLogList.mMainList = [] := by
  obtain ⟨es, hcounts, -⟩ := h
  refine hcounts.mMainList_eq_nil.mpr (eq_nil_iff_forall_not_mem.mpr fun e he ↦ ?_)
  obtain ⟨li, hli, -, hsize, -⟩ := hflush e.mLevel
  obtain rfl : [] = li := some_inj.mp hli
  -- the count of the level of `e` is still there
  have hzero := (hcounts.counts e.mLevel).symm.trans hsize
  rw [length_nil, Nat.cast_inj, length_eq_zero_iff] at hzero
  exact filter_eq_nil_iff.mp hzero e he (by simp)

/-- If the count overflows, the call has no meaning. -/
theorem append_eq_none (h : 2 ^ 31 - 1 ≤ (s.mConfigVec level).mCurrentSize) (addr : ℕ)
    (data : String) (timestamp : UInt64) : s.append addr data level timestamp = none := by
  rw [append]
  cases s.mLogList.append addr (timestamp, data) (level : ℕ) with
  | none => rfl
  | some mLogList =>
    simp only [bind_eq_bind, bind_some, addSize]
    rw [if_neg (by omega)]
    rfl

theorem Bookkept.step (h : Bookkept s) {e : Event} {lines : List String}
    (hmax : ∀ level, 1 ≤ (s.mConfigVec level).mMaxNumThres.toNat) (hg : s.Careful e)
    (hs : s.step e = some (s', lines)) : Bookkept s' ∧ SameThresholds s s' := by
  cases e with
  | append addr data level timestamp =>
    rw [LogBuffer.step] at hs
    split at hs
    · cases hs
    · next haddr =>
      obtain ⟨s₁, happend, hbook, hsame⟩ := h.append haddr (hmax level) hg data timestamp
      rw [happend, Option.map_some, some_inj] at hs
      obtain ⟨rfl, -⟩ := Prod.mk.inj hs
      exact ⟨hbook, hsame⟩
  | dump level =>
    obtain ⟨lines', -, hs⟩ := Option.map_eq_some_iff.mp hs
    obtain ⟨rfl, -⟩ := Prod.mk.inj hs
    exact ⟨h, fun _ ↦ ⟨rfl, rfl⟩⟩
  | flush =>
    obtain ⟨rfl, -⟩ := some_pair_inj hs
    exact ⟨h.flush hg, fun _ ↦ ⟨rfl, rfl⟩⟩

/-- **The counts of the log buffer.** In every run in which the buffer is flushed only while it is
empty and no level is filled until its count overflows, the count of each level is the number of its
lines, and not more than the maximum. Then `append` goes through: it does not read the first line of
a level without lines, and it ends. Neither condition can be done without. -/
theorem consistent_of_run {timeDepth maxCapacity : Fin totalLogLevels → UInt32}
    (hmax : ∀ level, 1 ≤ maxCapacity level) {hist : List (Item Event String)}
    (h : Run LogBuffer.step Careful (initial timeDepth maxCapacity) hist s) :
    s.Consistent ∧
      (∀ addr data level timestamp, addr ∉ s.addrs →
        ((s.append addr data level timestamp).isSome ↔
          (s.mConfigVec level).mCurrentSize < 2 ^ 31 - 1)) ∧
      (s.flush.Consistent ↔ s.mLogList.mMainList = []) := by
  have hinv : Bookkept s ∧ SameThresholds (initial timeDepth maxCapacity) s := by
    refine h.invariant (I := fun _ s ↦ Bookkept s ∧ SameThresholds (initial timeDepth maxCapacity) s)
      ⟨.initial .., fun _ ↦ ⟨rfl, rfl⟩⟩ ?_
    intro hist s e s' lines hinv hg hs
    have hstep := hinv.1.step (fun level ↦ (hinv.2 level).2 ▸ hmax level) hg hs
    exact ⟨hstep.1, hinv.2.trans hstep.2⟩
  obtain ⟨hbook, hsame⟩ := hinv
  refine ⟨hbook.consistent, fun addr data level timestamp haddr ↦ ⟨fun hsome ↦ ?_, fun hlt ↦ ?_⟩,
    hbook.eq_nil_of_flush, fun hnil ↦ (hbook.flush hnil).consistent⟩
  · by_contra! hge
    rw [append_eq_none hge] at hsome
    cases hsome
  · obtain ⟨s', hs', -⟩ := hbook.append haddr ((hsame level).2 ▸ hmax level) hlt data timestamp
    rw [hs']
    rfl

/-- Three lines where two are allowed, one of another level, and a line that drives both out by its
age. -/
theorem consistent_of_run_evicting :
    ∃ hist s, Run LogBuffer.step Careful (initial (fun _ ↦ 60) fun _ ↦ 2) hist s ∧ s.Consistent ∧
      (s.mConfigVec 0).mCurrentSize = 1 ∧ (s.mConfigVec 1).mCurrentSize = 1 := by
  obtain ⟨hist, s, hrun, hs⟩ := Run.exists_of_runEvents LogBuffer.step Careful
    (initial (fun _ ↦ 60) fun _ ↦ 2)
    [.flush, .append 1 "a" 0 10, .append 2 "b" 0 11, .append 3 "c" 1 11, .append 4 "d" 0 12,
      .dump none, .append 1 "e" 0 100]
    (fun _ s ↦ (s.mConfigVec 0).mCurrentSize = 1 ∧ (s.mConfigVec 1).mCurrentSize = 1)
    (by decide +kernel)
  exact ⟨hist, s, hrun, (consistent_of_run (by decide) hrun).1, hs⟩

/-- A line, a flush, and the count is one too high. With room for one line, the next line is driven
out by the count, and `append` reads the first line of a level that has none. -/
theorem not_consistent_of_flush :
    ∃ hist s, Run LogBuffer.step (fun _ _ ↦ True) (initial (fun _ ↦ 60) fun _ ↦ 1) hist s ∧
      ¬s.Consistent ∧ s.append 1 "b" 0 0 = none := by
  obtain ⟨hist, s, hrun, hdump, hsize, hnone⟩ :=
    Run.exists_of_runEvents LogBuffer.step (fun _ _ ↦ True)
    (initial (fun _ ↦ 60) fun _ ↦ 1) [.append 1 "a" 0 0, .flush]
    (fun _ s ↦ s.mLogList.dumpLevel 0 = some [] ∧ (s.mConfigVec 0).mCurrentSize = 1 ∧
      (s.append 1 "b" 0 0).isNone) (by decide +kernel)
  refine ⟨hist, s, hrun, fun hcons ↦ ?_, Option.isNone_iff_eq_none.mp hnone⟩
  obtain ⟨li, hli, -, hlen, -⟩ := hcons 0
  rw [hdump] at hli
  obtain rfl := Option.some_inj.mp hli
  rw [hsize] at hlen
  exact absurd hlen (by decide)

end LogBuffer

end MataDevice.Log
