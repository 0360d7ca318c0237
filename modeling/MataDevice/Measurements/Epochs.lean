import MataDevice.Measurements.LocApi

/-!
# Measurement epochs

The indications of an epoch are numbered and carry its frame count, and any of them may be lost. As
long as the epochs of which something is received can be told apart, by their frame counts or by
their first indications, each of them is reported once, at the latest with the first indication of
the next, and its report holds the measurements of its own indications. For this the two tests of
`reportGnssMeasurementData` make of the indications the batches of `Lib.Batches`, and what is
collected depends on the batch alone.

Two epochs with one frame count run together when everything between them is lost and the second one
begins in its middle.
-/

namespace MataDevice.Measurements

open Batches List

variable {α : Type}

/-! ## What is collected of an indication -/

namespace GnssSvMeasInfoInd

variable (ind : GnssSvMeasInfoInd α)

def known : Bool := getLocApiSvSystemType ind.system != .unknown

def convert (ms : List (QmiLocSVMeasurement α)) : List (GnssMeasurementsData α) :=
  (ms.filter (·.isFresh)).map fun m ↦ ⟨getLocApiSvSystemType ind.system, m⟩

/-- The fresh measurements of both arrays. -/
def freshMeasurements : List (GnssMeasurementsData α) :=
  ind.convert ((if ind.svMeasurement.valid then ind.svMeasurement.used else []) ++
    if ind.extSvMeasurement.valid then ind.extSvMeasurement.used else [])

/-- The fresh measurements of the first array, and with some there those of the second. -/
def collectedMeasurements : List (GnssMeasurementsData α) :=
  if ind.svMeasurement.valid && ind.svMeasurement.lenOk then
    ind.convert (ind.svMeasurement.used ++
      if ind.extSvMeasurement.valid && ind.extSvMeasurement.lenOk then ind.extSvMeasurement.used
      else [])
  else []

theorem convert_append (ms ms' : List (QmiLocSVMeasurement α)) :
    ind.convert (ms ++ ms') = ind.convert ms ++ ind.convert ms' := by
  rw [convert, filter_append, map_append]
  rfl

end GnssSvMeasInfoInd

theorem take_take_append {β : Type} (n : ℕ) (l l' : List β) :
    (l.take n ++ l').take n = (l ++ l').take n := by
  rw [take_append, take_append, take_take, min_self, length_take]
  congr 2
  omega

namespace GnssMeasurements

variable {g : GnssMeasurements α} {ind : GnssSvMeasInfoInd α}

theorem measurements_addMeasurements (ind : GnssSvMeasInfoInd α)
    (ms : List (QmiLocSVMeasurement α)) :
    g.measurements.length ≤ GNSS_MEASUREMENTS_MAX →
    (g.addMeasurements ind ms).measurements =
      (g.measurements ++ ind.convert ms).take GNSS_MEASUREMENTS_MAX := by
  induction ms generalizing g with
  | nil =>
    intro hg
    rw [addMeasurements, GnssSvMeasInfoInd.convert, filter_nil, map_nil, List.append_nil,
      take_of_length_le hg]
  | cons m ms ih =>
    intro hg
    unfold addMeasurements
    by_cases hlt : g.measurements.length < GNSS_MEASUREMENTS_MAX
    · by_cases hm : m.isFresh = true
      · rw [if_pos hlt, if_pos hm]
        dsimp only
        rw [ih (by rw [length_append]; exact hlt)]
        simp [GnssSvMeasInfoInd.convert, convertGnssMeasurements, hm]
      · rw [if_pos hlt, if_neg hm, ih hg]
        simp [GnssSvMeasInfoInd.convert, hm]
    · rw [if_neg hlt, take_append_of_le_length (by omega), take_of_length_le hg]

theorem length_measurements_addMeasurements (ind : GnssSvMeasInfoInd α)
    (ms : List (QmiLocSVMeasurement α)) (hg : g.measurements.length ≤ GNSS_MEASUREMENTS_MAX) :
    (g.addMeasurements ind ms).measurements.length ≤ GNSS_MEASUREMENTS_MAX := by
  rw [measurements_addMeasurements ind ms hg]
  exact length_take_le _ _

theorem measurements_collectClock : (g.collectClock ind).measurements = g.measurements := by
  unfold collectClock
  split <;> rfl

/-- The first array is collected, and AGC counts as present from the first measurement on. -/
theorem measurements_collectMeasurements (hg : g.measurements.length ≤ GNSS_MEASUREMENTS_MAX) :
    (g.collectMeasurements ind).measurements =
      (g.measurements ++ ind.collectedMeasurements).take GNSS_MEASUREMENTS_MAX := by
  unfold collectMeasurements GnssSvMeasInfoInd.collectedMeasurements
  by_cases hsv : (ind.svMeasurement.valid && ind.svMeasurement.lenOk) = true
  · obtain ⟨hvalid, hlen⟩ := Bool.and_eq_true_iff.mp hsv
    rw [if_pos hvalid, if_pos hlen, if_pos hsv]
    dsimp only
    generalize hg' : (if g.measurements.length = 0 then { g with mAgcIsPresent := true } else g) = g'
    have hmeas : g'.measurements = g.measurements := by
      rw [← hg']
      split <;> rfl
    rw [← hmeas] at hg ⊢
    have hsv' := measurements_addMeasurements ind ind.svMeasurement.used hg
    have hlen' := length_measurements_addMeasurements ind ind.svMeasurement.used hg
    by_cases hext : (ind.extSvMeasurement.valid && ind.extSvMeasurement.lenOk) = true
    · rw [if_pos hext, if_pos hext, measurements_addMeasurements _ _ hlen', hsv', take_take_append,
        append_assoc, GnssSvMeasInfoInd.convert_append]
    · rw [if_neg hext, if_neg hext, hsv', List.append_nil]
  · rw [if_neg hsv, List.append_nil, take_of_length_le hg]
    by_cases hvalid : ind.svMeasurement.valid = true
    · rw [if_pos hvalid, if_neg fun hlen ↦ hsv (by rw [hvalid, hlen]; rfl)]
    · rw [if_neg hvalid]

theorem measurements_collect (hg : g.measurements.length ≤ GNSS_MEASUREMENTS_MAX) :
    (g.collect ind).measurements =
      (g.measurements ++ ind.collectedMeasurements).take GNSS_MEASUREMENTS_MAX := by
  rw [collect, measurements_collectClock, measurements_collectMeasurements hg]

/-! ## What is collected of a batch -/

/-- What the indications of a batch make of an empty collection. -/
def assembled (batch : List (GnssSvMeasInfoInd α)) : GnssMeasurements α :=
  batch.foldl collect resetSvMeasurementReport

theorem assembled_concat (batch : List (GnssSvMeasInfoInd α)) (ind : GnssSvMeasInfoInd α) :
    assembled (batch ++ [ind]) = (assembled batch).collect ind := by
  rw [assembled, foldl_append]
  rfl

theorem measurements_assembled (batch : List (GnssSvMeasInfoInd α)) :
    (assembled batch).measurements =
      (batch.flatMap (·.collectedMeasurements)).take GNSS_MEASUREMENTS_MAX := by
  induction batch using List.reverseRecOn with
  | nil => rfl
  | append_singleton batch ind ih =>
    have hlen : (assembled batch).measurements.length ≤ GNSS_MEASUREMENTS_MAX := by
      rw [ih]
      exact length_take_le _ _
    rw [assembled_concat, measurements_collect hlen, ih, take_take_append, flatMap_append,
      flatMap_singleton]

/-! The flag of the rate is no part of what is collected. -/

variable {nhz : Bool}

theorem addMeasurements_isNhz (ms : List (QmiLocSVMeasurement α)) :
    ({ g with isNhz := nhz } : GnssMeasurements α).addMeasurements ind ms =
      { g.addMeasurements ind ms with isNhz := nhz } := by
  induction ms generalizing g with
  | nil => rfl
  | cons m ms ih =>
    unfold addMeasurements
    by_cases hlt : g.measurements.length < GNSS_MEASUREMENTS_MAX
    · by_cases hm : m.isFresh = true
      · rw [if_pos hlt, if_pos hlt, if_pos hm, if_pos hm]
        exact ih (g := { g with
          measurements := g.measurements ++ [(convertGnssMeasurements ind m).1]
          mAgcIsPresent := g.mAgcIsPresent && (convertGnssMeasurements ind m).2 })
      · rw [if_pos hlt, if_pos hlt, if_neg hm, if_neg hm]
        exact ih
    · rw [if_neg hlt, if_neg hlt]

theorem collectMeasurements_isNhz :
    ({ g with isNhz := nhz } : GnssMeasurements α).collectMeasurements ind =
      { g.collectMeasurements ind with isNhz := nhz } := by
  unfold collectMeasurements
  by_cases hvalid : ind.svMeasurement.valid = true
  · by_cases hlen : ind.svMeasurement.lenOk = true
    · by_cases hcount : g.measurements.length = 0
      · simp only [hvalid, hlen, hcount, if_true]
        rw [addMeasurements_isNhz (g := { g with mAgcIsPresent := true })]
        split
        · rw [addMeasurements_isNhz]
        · rfl
      · simp only [hvalid, hlen, hcount, if_true, if_false, addMeasurements_isNhz]
        split <;> rfl
    · rw [if_pos hvalid, if_pos hvalid, if_neg hlen, if_neg hlen]
  · rw [if_neg hvalid, if_neg hvalid]

theorem collect_isNhz :
    ({ g with isNhz := nhz } : GnssMeasurements α).collect ind =
      { g.collect ind with isNhz := nhz } := by
  rw [collect, collect, collectMeasurements_isNhz]
  unfold collectClock
  split <;> rfl

end GnssMeasurements

/-! ## The batches of the indications -/

/-- By what `reportGnssMeasurementData` recognizes the epochs. -/
def rules (α : Type) : Rules (GnssSvMeasInfoInd α) UInt32 where
  opens ind := ind.seqNum = 1 && ind.subSeqNum ≤ 1
  completes ind := ind.maxMessageNum = ind.seqNum && ind.maxSubSeqNum = ind.subSeqNum
  key := GnssSvMeasInfoInd.refFCount
  collects := GnssSvMeasInfoInd.known

/-- A report without the flag of the rate, which is set before the system is looked at. -/
def Report.collected (r : Report α) : List (GnssMeasurementsData α) × ℤ :=
  (r.measurements, r.msInWeek)

/-- What a batch is reported as. -/
def collectedOf (batch : List (GnssSvMeasInfoInd α)) : List (GnssMeasurementsData α) × ℤ :=
  (GnssMeasurements.assembled batch).reportSvMeasurementInternal.collected

namespace GnssSvMeasInfoInd

/-- The indication has a frame count and passes the check of its numbers. -/
structure Valid (ind : GnssSvMeasInfoInd α) : Prop where
  seqNum_le : ind.seqNum ≤ ind.maxMessageNum
  subSeqNum_le : ind.subSeqNum ≤ ind.maxSubSeqNum
  systemTimeExt : ind.systemTimeExt_valid = true

end GnssSvMeasInfoInd

open GnssMeasurements

namespace LocApiV02

variable {s : LocApiV02 α} {p : Pending (GnssSvMeasInfoInd α) UInt32} {ind : GnssSvMeasInfoInd α}

/-- The collection is that of the batch. -/
structure Simulates (s : LocApiV02 α) (p : Pending (GnssSvMeasInfoInd α) UInt32) : Prop where
  key_eq : p.key = s.prevRefFCount
  processed : s.newMeasProcessed = !p.batch.isEmpty
  allocated : s.mGnssMeasurements = none → s.newMeasProcessed = false
  collection_eq : ∃ nhz, s.collection = { assembled p.batch with isNhz := nhz }

theorem Simulates.init : Simulates (init : LocApiV02 α) ⟨0, []⟩ :=
  ⟨rfl, rfl, fun _ ↦ rfl, false, rfl⟩

theorem Simulates.allocate (h : s.Simulates p) : s.allocate.Simulates p := by
  unfold LocApiV02.allocate
  cases hg : s.mGnssMeasurements with
  | some g => exact h
  | none =>
    refine ⟨h.key_eq, ?_, fun _ ↦ rfl, ?_⟩
    · rw [← h.processed, h.allocated hg]
      rfl
    · obtain ⟨nhz, hnhz⟩ := h.collection_eq
      rw [collection, hg] at hnhz
      exact ⟨nhz, hnhz⟩

theorem Simulates.report (h : s.Simulates p) :
    (if s.newMeasProcessed then [s.collection.reportSvMeasurementInternal] else []).map
      Report.collected = p.rest.map collectedOf := by
  obtain ⟨nhz, hnhz⟩ := h.collection_eq
  rw [Pending.rest, h.processed, hnhz]
  cases p.batch <;> rfl

theorem begins_iff (hvalid : ind.Valid) :
    s.begins ind = true ↔ (rules α).Begins s.prevRefFCount ind := by
  rw [begins, Bool.or_eq_true, hvalid.systemTimeExt, Bool.true_and, bne_iff_ne]
  exact Iff.rfl

theorem Simulates.beginEpoch (h : s.Simulates p) (hvalid : ind.Valid) :
    (s.beginEpoch ind).1.Simulates ((rules α).flush p ind).1 ∧
      (s.beginEpoch ind).2.map Report.collected =
        ((rules α).flush p ind).2.map collectedOf := by
  by_cases hb : (rules α).Begins p.key ind
  · have hb' : s.begins ind = true := by
      rw [begins_iff hvalid, ← h.key_eq]
      exact hb
    rw [LocApiV02.beginEpoch, Rules.flush, if_pos hb, if_pos hb']
    refine ⟨⟨rfl, rfl, fun _ ↦ rfl, ?_⟩, h.report⟩
    have hempty : ∃ nhz, (if s.newMeasProcessed then resetSvMeasurementReport else s.collection) =
        ({ assembled ([] : List (GnssSvMeasInfoInd α)) with isNhz := nhz } :
          GnssMeasurements α) := by
      obtain ⟨nhz, hnhz⟩ := h.collection_eq
      rw [h.processed, hnhz]
      cases p.batch with
      | nil => exact ⟨nhz, rfl⟩
      | cons m ms => exact ⟨false, rfl⟩
    obtain ⟨nhz, hnhz⟩ := hempty
    exact ⟨nhz || ind.nHzMeasurement?.getD false, by rw [hnhz]; rfl⟩
  · have hb' : ¬s.begins ind = true := by
      rw [begins_iff hvalid, ← h.key_eq]
      exact hb
    rw [LocApiV02.beginEpoch, Rules.flush, if_neg hb, if_neg hb']
    exact ⟨h, rfl⟩

theorem Simulates.collectInd (h : s.Simulates p) (hknown : ind.known = true) :
    (s.collectInd ind).1.Simulates ((rules α).collect p ind).1 ∧
      (s.collectInd ind).2.map Report.collected =
        ((rules α).collect p ind).2.map collectedOf := by
  obtain ⟨nhz, hnhz⟩ := h.collection_eq
  have hcollect : s.collection.collect ind =
      { assembled (p.batch ++ [ind]) with isNhz := nhz } := by
    rw [hnhz, collect_isNhz, assembled_concat]
  have hcollects : (!(rules α).collects ind) = false := by
    show (!ind.known) = false
    rw [hknown]
    rfl
  unfold LocApiV02.collectInd Rules.collect
  rw [hcollects, hcollect]
  by_cases hlast : (ind.maxMessageNum = ind.seqNum && ind.maxSubSeqNum = ind.subSeqNum) = true
  · have hcompletes : (rules α).completes ind = true := hlast
    rw [if_pos hlast, if_pos hcompletes]
    exact ⟨⟨h.key_eq, rfl, fun _ ↦ rfl, false, rfl⟩, rfl⟩
  · have hcompletes : ¬(rules α).completes ind = true := hlast
    rw [if_neg hlast, if_neg hcompletes]
    refine ⟨⟨h.key_eq, ?_, fun hnone ↦ ?_, nhz, rfl⟩, rfl⟩
    · simp
    · cases hnone

/-- One indication. -/
theorem Simulates.step (h : s.Simulates p) (hvalid : ind.Valid) :
    (s.reportGnssMeasurementData ind).1.Simulates ((rules α).step p ind).1 ∧
      (s.reportGnssMeasurementData ind).2.map Report.collected =
        ((rules α).step p ind).2.map collectedOf := by
  have hcheck : ¬(ind.seqNum > ind.maxMessageNum || ind.subSeqNum > ind.maxSubSeqNum) = true := by
    simp [hvalid.seqNum_le, hvalid.subSeqNum_le]
  obtain ⟨hbegin, hout⟩ := h.allocate.beginEpoch hvalid
  unfold reportGnssMeasurementData Rules.step
  dsimp only
  rw [if_neg hcheck]
  by_cases hunknown : getLocApiSvSystemType ind.system = .unknown
  · have hcollect : (rules α).collect ((rules α).flush p ind).1 ind =
        (((rules α).flush p ind).1, []) := by
      rw [Rules.collect, if_pos]
      simp [rules, GnssSvMeasInfoInd.known, hunknown]
    rw [if_pos hunknown, hcollect, List.append_nil]
    exact ⟨hbegin, hout⟩
  · have hknown : ind.known = true := by simp [GnssSvMeasInfoInd.known, hunknown]
    obtain ⟨hcollect, hout'⟩ := hbegin.collectInd hknown
    rw [if_neg hunknown, map_append, map_append, hout, hout']
    exact ⟨hcollect, rfl⟩

/-- What is reported is what the batches are reported as. -/
theorem collected_run {inds : List (GnssSvMeasInfoInd α)} (hvalid : ∀ ind ∈ inds, ind.Valid) :
    (run reportGnssMeasurementData (init : LocApiV02 α) inds).2.map Report.collected =
      (run (rules α).step ⟨0, []⟩ inds).2.map collectedOf :=
  (run_simulates reportGnssMeasurementData (rules α).step (R := Simulates) _ _
    (fun _ _ _ h hi ↦ h.step hi) .init hvalid).2

end LocApiV02

/-! ## The epochs -/

/-- The numbers of an indication, where the two last ones are zero without sub-sequences. -/
structure Number where
  seqNum : ℕ
  maxMessageNum : ℕ
  subSeqNum : ℕ
  maxSubSeqNum : ℕ
  deriving DecidableEq, Repr

def GnssSvMeasInfoInd.number (ind : GnssSvMeasInfoInd α) : Number :=
  ⟨ind.seqNum.toNat, ind.maxMessageNum.toNat, ind.subSeqNum.toNat, ind.maxSubSeqNum.toNat⟩

/-- The numbers of the indications of one sequence number. -/
def subNumbers (maxMessageNum maxSubSeqNum seqNum : ℕ) : List Number :=
  if maxSubSeqNum = 0 then [⟨seqNum, maxMessageNum, 0, 0⟩]
  else (List.range' 1 maxSubSeqNum).map fun subSeqNum ↦
    ⟨seqNum, maxMessageNum, subSeqNum, maxSubSeqNum⟩

/-- The numbers of the indications of an epoch, in their order. -/
def numbers (maxMessageNum : ℕ) (maxSubSeqNum : ℕ → ℕ) : List Number :=
  (List.range' 1 maxMessageNum).flatMap fun seqNum ↦
    subNumbers maxMessageNum (maxSubSeqNum seqNum) seqNum

namespace Number

variable (n : Number)

def IsFirst : Prop := n.seqNum = 1 ∧ n.subSeqNum ≤ 1

def IsLast : Prop := n.maxMessageNum = n.seqNum ∧ n.maxSubSeqNum = n.subSeqNum

structure Ok : Prop where
  seqNum_le : n.seqNum ≤ n.maxMessageNum
  subSeqNum_le : n.subSeqNum ≤ n.maxSubSeqNum

end Number

section Numbers

variable {maxMessageNum maxSub : ℕ} {maxSubSeqNum : ℕ → ℕ} {seqNum : ℕ} {n : Number}

theorem of_mem_subNumbers (hn : n ∈ subNumbers maxMessageNum maxSub seqNum) :
    n.seqNum = seqNum ∧ n.maxMessageNum = maxMessageNum ∧ n.subSeqNum ≤ n.maxSubSeqNum := by
  unfold subNumbers at hn
  split at hn
  · obtain rfl := mem_singleton.mp hn
    exact ⟨rfl, rfl, le_refl _⟩
  · obtain ⟨subSeqNum, hsub, rfl⟩ := mem_map.mp hn
    rw [mem_range'_1] at hsub
    exact ⟨rfl, rfl, show subSeqNum ≤ maxSub by omega⟩

theorem ok_of_mem_numbers (hn : n ∈ numbers maxMessageNum maxSubSeqNum) : n.Ok := by
  obtain ⟨seqNum, hseq, hn⟩ := mem_flatMap.mp hn
  obtain ⟨hseqNum, hmax, hsub⟩ := of_mem_subNumbers hn
  rw [mem_range'_1] at hseq
  exact ⟨by omega, hsub⟩

theorem pairwise_subNumbers :
    (subNumbers maxMessageNum maxSub seqNum).Pairwise fun n n' ↦ ¬n.IsLast ∧ ¬n'.IsFirst := by
  unfold subNumbers
  split
  · exact pairwise_singleton _ _
  · refine pairwise_map.mpr (List.Pairwise.imp_of_mem ?_ (pairwise_lt_range' 1))
    intro subSeqNum subSeqNum' hsub hsub' hlt
    rw [mem_range'_1] at hsub hsub'
    refine ⟨fun h ↦ ?_, fun h ↦ ?_⟩
    · have := h.2
      dsimp only at this
      omega
    · have := h.2
      dsimp only at this
      omega

/-- Only the last number of an epoch completes it, and only the first one begins it. -/
theorem pairwise_numbers :
    (numbers maxMessageNum maxSubSeqNum).Pairwise fun n n' ↦ ¬n.IsLast ∧ ¬n'.IsFirst := by
  unfold numbers
  refine pairwise_flatMap.mpr ⟨fun seqNum _ ↦ pairwise_subNumbers, ?_⟩
  refine List.Pairwise.imp_of_mem ?_ (pairwise_lt_range' 1)
  intro seqNum seqNum' hseq hseq' hlt n hn n' hn'
  obtain ⟨hseqNum, hmax, -⟩ := of_mem_subNumbers hn
  obtain ⟨hseqNum', -, -⟩ := of_mem_subNumbers hn'
  rw [mem_range'_1] at hseq hseq'
  refine ⟨fun h ↦ ?_, fun h ↦ ?_⟩
  · have := h.1
    omega
  · have := h.1
    omega

theorem isFirst_of_head? (maxMessageNum : ℕ) (maxSubSeqNum : ℕ → ℕ)
    (hn : n ∈ (numbers maxMessageNum maxSubSeqNum).head?) : n.IsFirst := by
  cases maxMessageNum with
  | zero => cases hn
  | succ maxMessageNum =>
    rw [numbers, range'_succ, flatMap_cons] at hn
    unfold subNumbers at hn
    by_cases hsub : maxSubSeqNum 1 = 0
    · rw [if_pos hsub] at hn
      obtain rfl : _ = n := by simpa using hn
      exact ⟨rfl, by simp⟩
    · rw [if_neg hsub] at hn
      obtain ⟨maxSub, hmaxSub⟩ := Nat.exists_eq_succ_of_ne_zero hsub
      rw [hmaxSub, range'_succ] at hn
      obtain rfl : _ = n := by simpa using hn
      exact ⟨rfl, by simp⟩

end Numbers

/-- An epoch, with what is received of it. -/
structure Epoch (α : Type) where
  refFCount : UInt32
  sent : List (GnssSvMeasInfoInd α)
  received : List (GnssSvMeasInfoInd α)
  refFCount_ne_zero : refFCount ≠ 0
  time : ∀ ind ∈ sent, ind.systemTimeExt_valid = true ∧ ind.refFCount = refFCount
  numbered : ∃ maxMessageNum maxSubSeqNum,
    sent.map (·.number) = numbers maxMessageNum maxSubSeqNum
  received_sublist : received.Sublist sent

namespace Epoch

variable (e : Epoch α)

/-- The measurements the epoch is to be reported with, where `measurementsOf` are those of an
indication. -/
def report (measurementsOf : GnssSvMeasInfoInd α → List (GnssMeasurementsData α)) :
    Option (List (GnssMeasurementsData α)) :=
  if e.received.any (·.known) then
    some (((e.received.filter (·.known)).flatMap measurementsOf).take GNSS_MEASUREMENTS_MAX)
  else none

/-- The second epoch can be told from the first one: the frame counts differ, or its first
indication is received. -/
def Told (e e' : Epoch α) : Prop :=
  e.refFCount ≠ e'.refFCount ∨ e'.received.head? = e'.sent.head?

instance [DecidableEq α] (e e' : Epoch α) : Decidable (e.Told e') :=
  inferInstanceAs (Decidable (_ ∨ _))

variable {e} {ind : GnssSvMeasInfoInd α}

theorem valid_of_mem_sent (hind : ind ∈ e.sent) : ind.Valid := by
  obtain ⟨maxMessageNum, maxSubSeqNum, hnumbers⟩ := e.numbered
  have hok : ind.number.Ok := ok_of_mem_numbers (by
    rw [← hnumbers]
    exact mem_map_of_mem hind)
  exact ⟨hok.seqNum_le, hok.subSeqNum_le, (e.time ind hind).1⟩

theorem valid_of_mem (hind : ind ∈ e.received) : ind.Valid :=
  valid_of_mem_sent (e.received_sublist.subset hind)

theorem opens_iff : (rules α).opens ind = true ↔ ind.number.IsFirst := by
  simp only [rules, Bool.and_eq_true, decide_eq_true_eq, Number.IsFirst,
    GnssSvMeasInfoInd.number, ← UInt8.toNat_inj, UInt8.le_iff_toNat_le]
  exact Iff.rfl

theorem completes_iff : (rules α).completes ind = true ↔ ind.number.IsLast := by
  simp only [rules, Bool.and_eq_true, decide_eq_true_eq, Number.IsLast,
    GnssSvMeasInfoInd.number, UInt8.toNat_inj]

/-- What is received of an epoch is a group. -/
theorem isGroup (e : Epoch α) : (rules α).IsGroup e.refFCount e.received := by
  obtain ⟨maxMessageNum, maxSubSeqNum, hnumbers⟩ := e.numbered
  have hsent : (rules α).IsGroup e.refFCount e.sent := by
    refine ⟨fun ind hind ↦ (e.time ind hind).2, ?_⟩
    have hpair : (e.sent.map (·.number)).Pairwise fun n n' ↦ ¬n.IsLast ∧ ¬n'.IsFirst := by
      rw [hnumbers]
      exact pairwise_numbers
    refine (pairwise_map.mp hpair).imp fun {ind ind'} h ↦ ?_
    rw [← completes_iff, ← opens_iff, Bool.not_eq_true, Bool.not_eq_true] at h
    exact h
  exact hsent.sublist e.received_sublist

theorem isFirst_of_head?_sent (hind : ind ∈ e.sent.head?) : ind.number.IsFirst := by
  obtain ⟨maxMessageNum, maxSubSeqNum, hnumbers⟩ := e.numbered
  refine isFirst_of_head? maxMessageNum maxSubSeqNum ?_
  rw [← hnumbers, head?_map, Option.mem_def.mp hind]
  rfl

theorem Told.follows {e' : Epoch α} (h : e.Told e') :
    (rules α).Follows (e.refFCount, e.received) (e'.refFCount, e'.received) := by
  intro ind hind
  rcases h with hne | hhead
  · right
    rw [e'.isGroup.key_eq ind (mem_of_head? hind)]
    exact hne.symm
  · left
    rw [hhead] at hind
    exact opens_iff.mpr (isFirst_of_head?_sent hind)

end Epoch

/-! ## What is reported -/

/-- The measurements of the reports that the indications lead to, in their order. -/
def reported (inds : List (GnssSvMeasInfoInd α)) : List (List (GnssMeasurementsData α)) :=
  (run LocApiV02.reportGnssMeasurementData LocApiV02.init inds).2.map Report.measurements

/-- As soon as something of an epoch is received, the epochs before it have been reported, each
once. The epoch itself has been or not when all of it is received, and has not been before. -/
def AssembledWhole (measurementsOf : GnssSvMeasInfoInd α → List (GnssMeasurementsData α))
    (epochs : List (Epoch α)) : Prop :=
  ∀ earlier current later, epochs = earlier ++ current :: later →
    ∀ seen, seen <+: current.received → seen ≠ [] →
      reported (earlier.flatMap Epoch.received ++ seen) =
          earlier.filterMap (·.report measurementsOf) ∨
        seen = current.received ∧
          reported (earlier.flatMap Epoch.received ++ seen) =
            (earlier ++ [current]).filterMap (·.report measurementsOf)

/-- The groups of the epochs of which something is received. -/
def groupsOf (epochs : List (Epoch α)) : List (UInt32 × List (GnssSvMeasInfoInd α)) :=
  (epochs.filter (!·.received.isEmpty)).map fun e ↦ (e.refFCount, e.received)

variable {epochs earlier : List (Epoch α)} {current : Epoch α}

theorem groupsOf_append (epochs epochs' : List (Epoch α)) :
    groupsOf (epochs ++ epochs') = groupsOf epochs ++ groupsOf epochs' := by
  rw [groupsOf, filter_append, map_append]
  rfl

theorem flatMap_groupsOf (epochs : List (Epoch α)) :
    (groupsOf epochs).flatMap Prod.snd = epochs.flatMap Epoch.received := by
  induction epochs with
  | nil => rfl
  | cons e epochs ih =>
    rw [flatMap_cons, ← ih, groupsOf, groupsOf]
    cases hreceived : e.received with
    | nil => simp [hreceived]
    | cons ind inds => simp [hreceived]

theorem groupsOf_of_isEmpty {e : Epoch α} (h : e.received = []) : groupsOf [e] = [] := by
  simp [groupsOf, h]

theorem groupsOf_of_ne_nil {e : Epoch α} (h : e.received ≠ []) :
    groupsOf [e] = [(e.refFCount, e.received)] := by
  simp [groupsOf, h]

theorem map_batches_groupsOf_singleton (e : Epoch α) :
    ((rules α).batches ((groupsOf [e]).map Prod.snd)).map (fun batch ↦ (collectedOf batch).1) =
      (e.report (·.collectedMeasurements)).toList := by
  by_cases hreceived : e.received = []
  · rw [groupsOf_of_isEmpty hreceived, Epoch.report, hreceived]
    rfl
  · have hbatch : (groupsOf [e]).map Prod.snd = [e.received] := by
      rw [groupsOf_of_ne_nil hreceived]
      rfl
    have hcollected : (rules α).collected e.received = e.received.filter (·.known) := rfl
    rw [hbatch, Rules.batches_singleton, hcollected, Epoch.report]
    by_cases hknown : e.received.any (·.known) = true
    · have hne : e.received.filter (·.known) ≠ [] := by
        obtain ⟨ind, hind, hk⟩ := any_eq_true.mp hknown
        exact ne_nil_of_mem (mem_filter.mpr ⟨hind, hk⟩)
      rw [if_neg hne, if_pos hknown]
      show [(assembled _).measurements] = _
      rw [measurements_assembled]
      rfl
    · have hnil : e.received.filter (·.known) = [] := by
        refine filter_eq_nil_iff.mpr fun ind hind hk ↦ ?_
        exact hknown (any_eq_true.mpr ⟨ind, hind, hk⟩)
      rw [if_pos hnil, if_neg hknown]
      rfl

/-- The batches of the groups are reported as the epochs are to be. -/
theorem map_batches_groupsOf (epochs : List (Epoch α)) :
    ((rules α).batches ((groupsOf epochs).map Prod.snd)).map
        (fun batch ↦ (collectedOf batch).1) =
      epochs.filterMap (·.report (·.collectedMeasurements)) := by
  induction epochs with
  | nil => rfl
  | cons e epochs ih =>
    have happend : groupsOf (e :: epochs) = groupsOf [e] ++ groupsOf epochs :=
      groupsOf_append [e] epochs
    rw [happend, map_append, Rules.batches_append, map_append, ih,
      map_batches_groupsOf_singleton, filterMap_cons]
    cases e.report (·.collectedMeasurements) <;> rfl

theorem recognized_groupsOf (h : (epochs.filter (!·.received.isEmpty)).IsChain Epoch.Told) :
    (rules α).Recognized 0 (groupsOf epochs) := by
  refine ⟨fun g hg ↦ ?_, fun g hg ↦ ?_, fun g hg ind hind ↦ ?_, ?_⟩
  · obtain ⟨e, -, rfl⟩ := mem_map.mp hg
    exact e.isGroup
  · obtain ⟨e, he, rfl⟩ := mem_map.mp hg
    simpa using (mem_filter.mp he).2
  · -- the frame count of the first epoch differs from the initial value
    obtain ⟨e, -, rfl⟩ := mem_map.mp (mem_of_head? hg)
    right
    rw [e.isGroup.key_eq ind (mem_of_head? hind)]
    exact e.refFCount_ne_zero
  · rw [groupsOf, isChain_map]
    exact h.imp fun _ _ ↦ Epoch.Told.follows

/-- What is reported after some indications of an epoch. -/
theorem reported_append {seen : List (GnssSvMeasInfoInd α)} (hseen : seen <+: current.received) :
    reported (earlier.flatMap Epoch.received ++ seen) =
      (run (rules α).step ⟨0, []⟩
        ((groupsOf earlier).flatMap Prod.snd ++ seen)).2.map fun batch ↦ (collectedOf batch).1 := by
  have hvalid : ∀ ind ∈ earlier.flatMap Epoch.received ++ seen, ind.Valid := fun ind hind ↦ by
    rcases mem_append.mp hind with hind | hind
    · obtain ⟨e, -, hind⟩ := mem_flatMap.mp hind
      exact Epoch.valid_of_mem hind
    · exact Epoch.valid_of_mem (hseen.subset hind)
  have hrun := congrArg (List.map Prod.fst) (LocApiV02.collected_run hvalid)
  rw [map_map, map_map] at hrun
  rw [flatMap_groupsOf]
  exact hrun

/-- Epochs that can be told apart are assembled whole. -/
theorem assembledWhole_of_told (h : (epochs.filter (!·.received.isEmpty)).IsChain Epoch.Told) :
    AssembledWhole (·.collectedMeasurements) epochs := by
  intro earlier current later hepochs seen hseen hne
  have hreceived : current.received ≠ [] := by
    rintro hnil
    rw [hnil] at hseen
    exact hne (prefix_nil.mp hseen)
  have hlast : groupsOf (earlier ++ [current]) =
      groupsOf earlier ++ [(current.refFCount, current.received)] := by
    rw [groupsOf_append, groupsOf_of_ne_nil hreceived]
  have hrec : (rules α).Recognized 0
      (groupsOf earlier ++ [(current.refFCount, current.received)]) := by
    rw [← hlast]
    refine recognized_groupsOf ?_
    rw [hepochs, append_cons, filter_append] at h
    exact h.left_of_append
  have hseen' := hrec.handedOut (s := ⟨0, []⟩) rfl hseen hne
  rw [← hlast] at hseen'
  rw [reported_append hseen]
  rcases hseen' with hseen' | ⟨hall, hseen'⟩
  · left
    rw [hseen', map_batches_groupsOf]
  · right
    exact ⟨hall, by rw [hseen', map_batches_groupsOf]⟩

/-- A fresh measurement of a satellite. -/
def sampleMeasurement (gnssSvId : UInt16) : QmiLocSVMeasurement Unit :=
  ⟨gnssSvId, 0x08000000, 0x08000000, ()⟩

/-- A GPS indication with that many measurements in each of its arrays. -/
def sampleInd (seqNum maxMessageNum : UInt8) (refFCount : UInt32) (gnssSvId : UInt16)
    (len extLen : UInt32) : GnssSvMeasInfoInd Unit where
  seqNum
  maxMessageNum
  subSeqNum? := none
  maxSubSeqNum? := none
  system := .gps
  systemTimeExt_valid := true
  refFCount
  nHzMeasurement? := none
  numClockResets_valid := true
  systemMsec := 0
  jammerIndicator_valid := false
  svMeasurement := ⟨len != 0, len, Vector.replicate _ (sampleMeasurement gnssSvId)⟩
  extSvMeasurement := ⟨extLen != 0, extLen, Vector.replicate _ (sampleMeasurement gnssSvId)⟩

/-- An epoch of two indications, of which some are received. -/
def sampleEpoch (refFCount : UInt32) (gnssSvId : UInt16) (h : refFCount ≠ 0)
    (received : List (GnssSvMeasInfoInd Unit))
    (hreceived : received.Sublist
      [sampleInd 1 2 refFCount gnssSvId 1 0, sampleInd 2 2 refFCount gnssSvId 1 0]) :
    Epoch Unit where
  refFCount
  sent := [sampleInd 1 2 refFCount gnssSvId 1 0, sampleInd 2 2 refFCount gnssSvId 1 0]
  received
  refFCount_ne_zero := h
  time ind hind := by
    rcases mem_pair.mp hind with rfl | rfl <;> exact ⟨rfl, rfl⟩
  numbered := ⟨2, fun _ ↦ 0, rfl⟩
  received_sublist := hreceived

/-- The first epoch is reported with the second one, of which only the end is received. -/
theorem assembledWhole_of_told_two :
    AssembledWhole (·.collectedMeasurements)
      [sampleEpoch 5 7 (by decide) [sampleInd 1 2 5 7 1 0] (by decide),
        sampleEpoch 6 8 (by decide) [sampleInd 2 2 6 8 1 0] (by decide)] :=
  assembledWhole_of_told (by decide)

/-! ## Epochs that are not assembled whole -/

/-- An epoch of one indication, which has a measurement in the second array only. -/
def sampleExtEpoch : Epoch Unit where
  refFCount := 5
  sent := [sampleInd 1 1 5 7 0 1]
  received := [sampleInd 1 1 5 7 0 1]
  refFCount_ne_zero := by decide
  time := by decide
  numbered := ⟨1, fun _ ↦ 0, by decide⟩
  received_sublist := List.Sublist.refl _

/-- Of three epochs the second one is lost, with the end of the first and the beginning of the
third. -/
def sampleLost : List (Epoch Unit) :=
  [sampleEpoch 5 7 (by decide) [sampleInd 1 2 5 7 1 0] (by decide),
    sampleEpoch 6 8 (by decide) [] (by decide),
    sampleEpoch 5 9 (by decide) [sampleInd 2 2 5 9 1 0] (by decide)]

/-- The measurements of the second array alone are not reported, and two epochs with a lost one
between them are reported as one. -/
theorem not_assembledWhole :
    (¬∀ epochs : List (Epoch Unit), epochs.IsChain (fun e e' ↦ e.refFCount ≠ e'.refFCount) →
      AssembledWhole (·.freshMeasurements) epochs) ∧
    ¬∀ epochs : List (Epoch Unit), epochs.IsChain (fun e e' ↦ e.refFCount ≠ e'.refFCount) →
      AssembledWhole (·.collectedMeasurements) epochs := by
  refine ⟨fun h ↦ ?_, fun h ↦ ?_⟩
  · have hwhole := h [sampleExtEpoch] (isChain_singleton _) [] sampleExtEpoch [] rfl
      sampleExtEpoch.received prefix_rfl (by decide)
    exact absurd hwhole (by decide +kernel)
  · have hwhole := h sampleLost (by decide) (sampleLost.take 2) sampleLost[2] [] rfl
      sampleLost[2].received prefix_rfl (by decide)
    exact absurd hwhole (by decide +kernel)

end MataDevice.Measurements
