import MataDevice.Lib.Unordered
import MataDevice.Measurements.LocApi

/-!
# The carrier phase from epoch to epoch

For each signal of a satellite that had a carrier phase, `LocApiV02` keeps in `mADRdata` the number of
the epoch and the cycle slip count. A measurement goes on from the epoch before, so that the bit for a
reset is clear in its ADR state, if the entry has the number before. Entries are updated in place or
added at the end, and the report of an epoch sweeps away those of other epochs.

What is to hold is said of the outputs, from which the last two epochs can be read off.
-/

namespace MataDevice.Measurements.CarrierPhase

open Batches Unordered List

def QMI_LOC_SV_CARRIER_PHASE_VALID : UInt16 := 0x10

def QMI_LOC_SV_CYCLESLIP_COUNT_VALID : UInt16 := 0x40

def QMI_LOC_MASK_MEAS_STATUS_LP_VALID : UInt64 := 0x40

def ADR_STATE_VALID_BIT : UInt32 := 1

def ADR_STATE_RESET_BIT : UInt32 := 2

def ADR_STATE_CYCLE_SLIP_BIT : UInt32 := 4

def ADR_STATE_HALF_CYCLE_RESOLVED_BIT : UInt32 := 8

/-- What is measured of the carrier phase, which is given by the bits of a `double`. -/
structure Measured where
  validMask : UInt16
  carrierPhase : UInt64
  cycleSlipCount : UInt8
  deriving DecidableEq, Repr

def phaseValid (validMask : UInt16) : Bool := validMask &&& QMI_LOC_SV_CARRIER_PHASE_VALID != 0

def countValid (validMask : UInt16) : Bool := validMask &&& QMI_LOC_SV_CYCLESLIP_COUNT_VALID != 0

/-- Both zeros equal `0.0`. -/
def Measured.hasPhase (m : Measured) : Bool :=
  phaseValid m.validMask && m.carrierPhase &&& 0x7fffffffffffffff != 0

structure MeasInd extends GnssSvMeasInfoInd Measured where
  gnssSignalType? : Option UInt64
  deriving DecidableEq, Repr

structure AdrData where
  counter : UInt32
  system : QmiLocSvSystem
  gnssSignalType : UInt64
  gnssSvId : UInt16
  validMask : UInt16
  cycleSlipCount : UInt8
  deriving DecidableEq, Repr

def AdrData.isFor (d : AdrData) (ind : MeasInd) (m : QmiLocSVMeasurement Measured) : Bool :=
  ind.system = d.system &&
    (match ind.gnssSignalType? with
      | some gnssSignalType => gnssSignalType = d.gnssSignalType
      | none => d.gnssSignalType = 0) &&
    m.gnssSvId = d.gnssSvId

/-- System, signal type and id -/
abbrev Key := QmiLocSvSystem × UInt64 × UInt16

def AdrData.key (d : AdrData) : Key := (d.system, d.gnssSignalType, d.gnssSvId)

def MeasInd.key (ind : MeasInd) (m : QmiLocSVMeasurement Measured) : Key :=
  (ind.system, ind.gnssSignalType?.getD 0, m.gnssSvId)

/-- A measurement with the ADR state that it is converted with. -/
structure Conversion where
  key : Key
  measured : Measured
  adrStateMask : UInt32
  deriving DecidableEq, Repr

/-- The entry for the measurement in an epoch -/
def Conversion.data (c : Conversion) (counter : UInt32) : AdrData :=
  ⟨counter, c.key.1, c.key.2.1, c.key.2.2, c.measured.validMask, c.measured.cycleSlipCount⟩

inductive Output
  | began
  | converted (c : Conversion)
  | reported (mADRdata : List AdrData)
  deriving DecidableEq, Repr

structure CarrierApi where
  api : LocApiV02 Measured
  mADRdata : List AdrData
  mMinInterval : UInt32
  deriving DecidableEq, Repr

inductive Event
  | reportGnssMeasurementData (ind : MeasInd)
  | setMinInterval (minInterval : UInt32)
  deriving DecidableEq, Repr

namespace CarrierApi

variable (s : CarrierApi) (ind : MeasInd) (m : QmiLocSVMeasurement Measured)

def init : CarrierApi := ⟨LocApiV02.init, [], 1000⟩

def adrStateMask : UInt32 :=
  if m.measured.hasPhase then
    let mask := ADR_STATE_VALID_BIT ||| ADR_STATE_RESET_BIT
    let mask :=
      match s.mADRdata.find? (·.isFor ind m) with
      | none => mask
      | some d =>
        if phaseValid d.validMask && s.mMinInterval ≤ 1000 && d.counter = s.api.mCounter - 1 then
          let mask := mask &&& ~~~ADR_STATE_RESET_BIT
          if countValid d.validMask && countValid m.measured.validMask &&
              d.cycleSlipCount != m.measured.cycleSlipCount then
            mask ||| ADR_STATE_CYCLE_SLIP_BIT
          else mask
        else mask
    if m.measurementStatus &&& m.validMeasStatusMask &&& QMI_LOC_MASK_MEAS_STATUS_LP_VALID != 0 then
      mask ||| ADR_STATE_HALF_CYCLE_RESOLVED_BIT
    else mask
  else 0

/-- The first entry for the measurement is updated, or there is a new one. -/
def updateADRdata : List AdrData :=
  if m.measured.hasPhase then
    if s.mADRdata.any (·.isFor ind m) then
      s.mADRdata.replaceF fun d ↦
        if d.isFor ind m then
          some { d with
            counter := s.api.mCounter
            validMask := m.measured.validMask
            cycleSlipCount := m.measured.cycleSlipCount }
        else none
    else
      s.mADRdata ++ [⟨s.api.mCounter, ind.system, ind.gnssSignalType?.getD 0, m.gnssSvId,
        m.measured.validMask, m.measured.cycleSlipCount⟩]
  else s.mADRdata

/-- What `convertGnssMeasurements` does about the phase. -/
def convertGnssMeasurements : CarrierApi × List Output :=
  ({ s with mADRdata := s.updateADRdata ind m },
    [.converted ⟨ind.key m, m.measured, s.adrStateMask ind m⟩])

def reportSvMeasurementInternal : CarrierApi × List Output :=
  let mADRdata := sweep (·.counter = s.api.mCounter) s.mADRdata
  ({ s with mADRdata }, [.reported mADRdata])

def beginEpoch : CarrierApi × List Output :=
  if s.api.begins ind.toGnssSvMeasInfoInd then
    let (s', outs) := if s.api.newMeasProcessed then s.reportSvMeasurementInternal else (s, [])
    ({ s' with api := (s.api.beginEpoch ind.toGnssSvMeasInfoInd).1 }, outs ++ [.began])
  else (s, [])

/-- The measurements that are converted are those that are added to the collection. -/
def collectInd : CarrierApi × List Output :=
  let ind' := ind.toGnssSvMeasInfoInd
  let added := (s.api.collection.collect ind').measurements.drop
    s.api.collection.measurements.length
  let (s', outs) := run (fun s m ↦ s.convertGnssMeasurements ind m) s (added.map (·.measurement))
  let (s', outs') :=
    if ind.maxMessageNum = ind.seqNum && ind'.maxSubSeqNum = ind'.subSeqNum then
      s'.reportSvMeasurementInternal
    else (s', [])
  ({ s' with api := (s.api.collectInd ind').1 }, outs ++ outs')

/-- In the order of `LocApiV02.reportGnssMeasurementData` -/
def reportGnssMeasurementData : CarrierApi × List Output :=
  let s := { s with api := s.api.allocate }
  if ind.seqNum > ind.maxMessageNum ||
      ind.toGnssSvMeasInfoInd.subSeqNum > ind.toGnssSvMeasInfoInd.maxSubSeqNum then (s, [])
  else
    let (s, outs) := s.beginEpoch ind
    if getLocApiSvSystemType ind.system = .unknown then (s, outs)
    else
      let (s, outs') := s.collectInd ind
      (s, outs ++ outs')

def step : Event → CarrierApi × List Output
  | .reportGnssMeasurementData ind => s.reportGnssMeasurementData ind
  | .setMinInterval mMinInterval => ({ s with mMinInterval }, [])

end CarrierApi

/-! ## The last two epochs -/

structure Epochs where
  previous : List Conversion
  current : List Conversion
  reported : Bool
  deriving DecidableEq, Repr

namespace Epochs

def init : Epochs := ⟨[], [], false⟩

def next (l : Epochs) : Output → Epochs
  | .began => ⟨l.current, [], false⟩
  | .converted c => { l with current := l.current ++ [c] }
  | .reported _ => { l with reported := true }

/-- The measurement of a signal that has a phase -/
def Phase (l : List Conversion) (key : Key) (c : Conversion) : Prop :=
  c ∈ l ∧ c.key = key ∧ c.measured.hasPhase = true

/-- Every epoch is reported before the next one begins, after all its measurements, and has at most
one measurement of a signal. -/
def Proper (l : Epochs) : Output → Prop
  | .began => l.reported = true ∨ l.previous = [] ∧ l.current = []
  | .converted c => l.reported = false ∧ c.key ∉ l.current.map Conversion.key
  | .reported _ => True

instance (l : Epochs) : DecidablePred l.Proper
  | .began => inferInstanceAs (Decidable (_ ∨ _))
  | .converted _ => inferInstanceAs (Decidable (_ ∧ _))
  | .reported _ => .isTrue trivial

/-- The flags and the entries are right. -/
def Exact (l : Epochs) : Output → Prop
  | .began => True
  | .converted c => c.measured.hasPhase = true →
    (c.adrStateMask &&& ADR_STATE_RESET_BIT = 0 ↔ ∃ c', Phase l.previous c.key c') ∧
    (c.adrStateMask &&& ADR_STATE_CYCLE_SLIP_BIT ≠ 0 ↔
      c.adrStateMask &&& ADR_STATE_RESET_BIT = 0 ∧ ∃ c', Phase l.previous c.key c' ∧
        countValid c'.measured.validMask = true ∧ countValid c.measured.validMask = true ∧
        c'.measured.cycleSlipCount ≠ c.measured.cycleSlipCount)
  | .reported mADRdata => (mADRdata.map AdrData.key).Nodup ∧
    ∀ key, key ∈ mADRdata.map AdrData.key ↔ ∃ c, Phase l.current key c

/-- A property of each output and the epochs before it -/
def Holds (P : Epochs → Output → Prop) : Epochs → List Output → Prop
  | _, [] => True
  | l, out :: outs => P l out ∧ Holds P (l.next out) outs

instance decidableHolds (P : Epochs → Output → Prop) [∀ l, DecidablePred (P l)] :
    ∀ l outs, Decidable (Holds P l outs)
  | _, [] => .isTrue trivial
  | l, out :: outs =>
    have := decidableHolds P (l.next out) outs
    inferInstanceAs (Decidable (_ ∧ _))

variable {l : Epochs} {key : Key} {c c' : Conversion} {outs outs' : List Output}

theorem holds_append {P : Epochs → Output → Prop} :
    Holds P l (outs ++ outs') ↔ Holds P l outs ∧ Holds P (outs.foldl next l) outs' := by
  induction outs generalizing l with
  | nil => simp [Holds]
  | cons out outs ih => rw [cons_append, Holds, Holds, ih, and_assoc, foldl_cons]

theorem phase_concat {cs : List Conversion} :
    Phase (cs ++ [c]) key c' ↔
      Phase cs key c' ∨ c' = c ∧ c.key = key ∧ c.measured.hasPhase = true := by
  unfold Phase
  rw [mem_append, mem_singleton, or_and_right]
  exact or_congr_right (and_congr_right fun h ↦ by rw [h])

end Epochs

/-! ## The entries -/

open Epochs

variable {s : CarrierApi} {ind : MeasInd} {m : QmiLocSVMeasurement Measured} {d : AdrData}
  {l : Epochs}

theorem isFor_iff : d.isFor ind m = true ↔ d.key = ind.key m := by
  unfold AdrData.isFor AdrData.key MeasInd.key
  cases ind.gnssSignalType? <;> grind

/-- The entries are those of the measurements with a phase, of this epoch and, where they have not
been updated, of the epoch before if this one has not been reported. -/
structure Inv (l : Epochs) (s : CarrierApi) : Prop where
  nodup : (s.mADRdata.map AdrData.key).Nodup
  minInterval : s.mMinInterval ≤ 1000
  mem : ∀ d, d ∈ s.mADRdata ↔
    (∃ c, Phase l.current d.key c ∧ d = c.data s.api.mCounter) ∨
    l.reported = false ∧ (∃ c, Phase l.previous d.key c ∧ d = c.data (s.api.mCounter - 1)) ∧
      ¬∃ c, Phase l.current d.key c

/-- From a state that fits the epochs, what is put out is exact as long as it is proper, and the
state after it fits the epochs. -/
def Sound (s : CarrierApi) (result : CarrierApi × List Output) : Prop :=
  ∀ l, Inv l s → Holds Proper l result.2 →
    Holds Exact l result.2 ∧ Inv (result.2.foldl next l) result.1

theorem Sound.trans {result result' : CarrierApi × List Output} (h : Sound s result)
    (h' : Sound result.1 result') : Sound s (result'.1, result.2 ++ result'.2) := by
  intro l hinv hproper
  obtain ⟨hproper, hproper'⟩ := holds_append.mp hproper
  obtain ⟨hexact, hinv⟩ := h l hinv hproper
  obtain ⟨hexact', hinv⟩ := h' _ hinv hproper'
  exact ⟨holds_append.mpr ⟨hexact, hexact'⟩, by rwa [foldl_append]⟩

theorem Sound.run {ι : Type} {step : CarrierApi → ι → CarrierApi × List Output} {is : List ι}
    (h : ∀ s, ∀ i ∈ is, Sound s (step s i)) : Sound s (run step s is) := by
  induction is generalizing s with
  | nil => exact fun l hinv _ ↦ ⟨trivial, hinv⟩
  | cons i is ih =>
    exact (h s i mem_cons_self).trans (ih fun s j hj ↦ h s j (mem_cons_of_mem i hj))

/-- What is found for a measurement that this epoch has not had is from the epoch before. -/
theorem Inv.find?_eq_some (h : Inv l s) (hcurrent : ¬∃ c, Phase l.current (ind.key m) c)
    (hreported : l.reported = false) :
    s.mADRdata.find? (·.isFor ind m) = some d ↔
      ∃ c, Phase l.previous (ind.key m) c ∧ d = c.data (s.api.mCounter - 1) := by
  have hmem (hd : d.key = ind.key m) : d ∈ s.mADRdata ↔
      ∃ c, Phase l.previous (ind.key m) c ∧ d = c.data (s.api.mCounter - 1) := by
    rw [h.mem, hd]
    constructor
    · rintro (⟨c, hc, -⟩ | ⟨-, hd, -⟩)
      · exact absurd ⟨c, hc⟩ hcurrent
      · exact hd
    · exact fun hd ↦ .inr ⟨hreported, hd, hcurrent⟩
  constructor
  · intro hfind
    have hfor := find?_some hfind
    exact (hmem (isFor_iff.mp hfor)).mp (mem_of_find?_eq_some hfind)
  · rintro ⟨c, hc, hd⟩
    have hdk : d.key = ind.key m := by rw [hd, ← hc.2.1]; rfl
    have hd' := (hmem hdk).mpr ⟨c, hc, hd⟩
    cases he : s.mADRdata.find? (·.isFor ind m) with
    | none => exact absurd (isFor_iff.mpr hdk) (List.find?_eq_none.mp he d hd')
    | some e =>
      have hfor := find?_some he
      rw [inj_on_of_nodup_map h.nodup (mem_of_find?_eq_some he) hd'
        ((isFor_iff.mp hfor).trans hdk.symm)]

variable (ind) in
theorem adrStateMask_exact (hphase : m.measured.hasPhase = true) (hinterval : s.mMinInterval ≤ 1000)
    (hfind : ∀ d, s.mADRdata.find? (·.isFor ind m) = some d →
      phaseValid d.validMask = true ∧ d.counter = s.api.mCounter - 1) :
    (s.adrStateMask ind m &&& ADR_STATE_RESET_BIT = 0 ↔
      ∃ d, s.mADRdata.find? (·.isFor ind m) = some d) ∧
    (s.adrStateMask ind m &&& ADR_STATE_CYCLE_SLIP_BIT ≠ 0 ↔
      ∃ d, s.mADRdata.find? (·.isFor ind m) = some d ∧ countValid d.validMask = true ∧
        countValid m.measured.validMask = true ∧ d.cycleSlipCount ≠ m.measured.cycleSlipCount) := by
  unfold CarrierApi.adrStateMask
  rw [if_pos hphase]
  cases hf : s.mADRdata.find? (·.isFor ind m) with
  | none =>
    simp only [reduceCtorEq, exists_false, false_and, iff_false]
    split <;> decide
  | some d =>
    obtain ⟨hvalid, hcounter⟩ := hfind d hf
    have hcond : (phaseValid d.validMask && decide (s.mMinInterval ≤ 1000) &&
        decide (d.counter = s.api.mCounter - 1)) = true := by simp [hvalid, hinterval, hcounter]
    simp only [hcond, if_true, Option.some.injEq, exists_eq', exists_eq_left', iff_true]
    have hslip : (countValid d.validMask && countValid m.measured.validMask &&
        d.cycleSlipCount != m.measured.cycleSlipCount) = decide (countValid d.validMask = true ∧
        countValid m.measured.validMask = true ∧ d.cycleSlipCount ≠ m.measured.cycleSlipCount) := by
      rw [Bool.eq_iff_iff]
      simp [and_assoc]
    simp only [hslip, decide_eq_true_eq]
    by_cases hcount : countValid d.validMask = true ∧ countValid m.measured.validMask = true ∧
        d.cycleSlipCount ≠ m.measured.cycleSlipCount
    · simp only [if_pos hcount, iff_true_right hcount]
      split <;> decide
    · simp only [if_neg hcount, iff_false_right hcount]
      split <;> decide

variable (s ind m) in
theorem updateADRdata_eq (hphase : m.measured.hasPhase = true) :
    s.updateADRdata ind m =
      put AdrData.key (Conversion.data ⟨ind.key m, m.measured, s.adrStateMask ind m⟩ s.api.mCounter)
        s.mADRdata := by
  have hfor : (fun d : AdrData ↦ d.isFor ind m) = fun d ↦ decide (d.key = ind.key m) :=
    funext fun d ↦ by rw [Bool.eq_iff_iff, isFor_iff, decide_eq_true_eq]
  have hupdate : (fun d : AdrData ↦ if d.isFor ind m = true then some { d with
        counter := s.api.mCounter
        validMask := m.measured.validMask
        cycleSlipCount := m.measured.cycleSlipCount } else none) =
      fun d ↦ if d.key = ind.key m then some (Conversion.data
        ⟨ind.key m, m.measured, s.adrStateMask ind m⟩ s.api.mCounter) else none := by
    funext d
    simp only [isFor_iff]
    split
    · rename_i hkey
      rw [← hkey]
      rfl
    · rfl
  rw [CarrierApi.updateADRdata, if_pos hphase, hfor, hupdate]
  rfl

/-- The entry for a measurement replaces that for its key, if it has a phase. -/
theorem Inv.concat {c : Conversion} (h : Inv l s) (hcurrent : ¬∃ c', Phase l.current c.key c')
    {mADRdata : List AdrData}
    (heq : mADRdata = if c.measured.hasPhase = true then
      put AdrData.key (c.data s.api.mCounter) s.mADRdata else s.mADRdata) :
    Inv { l with current := l.current ++ [c] } { s with mADRdata } := by
  by_cases hphase : c.measured.hasPhase = true
  · rw [if_pos hphase] at heq
    have hperm := heq ▸ put_perm (c.data s.api.mCounter) h.nodup
    have hmem : ∀ d, d ∈ mADRdata ↔ d = c.data s.api.mCounter ∨ d ∈ s.mADRdata ∧ d.key ≠ c.key :=
      fun d ↦ by
        rw [hperm.mem_iff, mem_cons, mem_filter, decide_eq_true_eq]
        rfl
    refine ⟨(hperm.map _).nodup_iff.mpr (nodup_cons.mpr ⟨?_, ?_⟩), h.minInterval, fun d ↦ ?_⟩
    · rw [mem_map]
      rintro ⟨d, hd, hdk⟩
      exact of_decide_eq_true (mem_filter.mp hd).2 hdk
    · exact h.nodup.sublist (filter_sublist.map _)
    · simp only [hmem, h.mem, phase_concat, hphase, and_true]
      by_cases hd : d.key = c.key
      · rw [hd]
        constructor
        · rintro (hd | ⟨-, hne⟩)
          · exact .inl ⟨c, .inr ⟨rfl, rfl⟩, hd⟩
          · exact absurd rfl hne
        · rintro (⟨c', hc | ⟨rfl, -⟩, hdata⟩ | ⟨-, -, hnone⟩)
          · exact absurd ⟨c', hc⟩ hcurrent
          · exact .inl hdata
          · exact absurd ⟨c, .inr ⟨rfl, rfl⟩⟩ hnone
      · have hne : d ≠ c.data s.api.mCounter := fun h ↦ hd (by rw [h]; rfl)
        simp [hd, hne, Ne.symm hd]
  · rw [if_neg hphase] at heq
    subst heq
    refine ⟨h.nodup, h.minInterval, fun d ↦ (h.mem d).trans ?_⟩
    simp only [phase_concat, hphase, Bool.false_eq_true, and_false, or_false]

theorem sound_convertGnssMeasurements : Sound s (s.convertGnssMeasurements ind m) := by
  intro l hinv hproper
  obtain ⟨⟨hreported, hkey⟩, -⟩ := hproper
  have hcurrent : ¬∃ c, Phase l.current (ind.key m) c := fun ⟨c, hc, hck, _⟩ ↦
    hkey (mem_map.mpr ⟨c, hc, hck⟩)
  refine ⟨⟨fun hphase ↦ ?_, trivial⟩, hinv.concat hcurrent ?_⟩
  · obtain ⟨hreset, hslip⟩ := adrStateMask_exact ind hphase hinv.minInterval fun d hd ↦ by
      obtain ⟨c, hc, rfl⟩ := (hinv.find?_eq_some hcurrent hreported).mp hd
      exact ⟨(Bool.and_eq_true_iff.mp hc.2.2).1, rfl⟩
    simp only [hinv.find?_eq_some hcurrent hreported] at hreset hslip
    have hreset' : s.adrStateMask ind m &&& ADR_STATE_RESET_BIT = 0 ↔
        ∃ c', Phase l.previous (ind.key m) c' :=
      hreset.trans ⟨fun ⟨_, c, hc, _⟩ ↦ ⟨c, hc⟩, fun ⟨c, hc⟩ ↦ ⟨_, c, hc, rfl⟩⟩
    refine ⟨hreset', hslip.trans ⟨?_, ?_⟩⟩
    · rintro ⟨_, ⟨c, hc, rfl⟩, hcount⟩
      exact ⟨hreset'.mpr ⟨c, hc⟩, c, hc, hcount⟩
    · rintro ⟨-, c, hc, hcount⟩
      exact ⟨_, ⟨c, hc, rfl⟩, hcount⟩
  · by_cases hphase : m.measured.hasPhase = true
    · exact (updateADRdata_eq s ind m hphase).trans (if_pos hphase).symm
    · exact (if_neg hphase).trans (if_neg hphase).symm

theorem sound_reportSvMeasurementInternal : Sound s s.reportSvMeasurementInternal := by
  intro l hinv _
  have hperm := sweep_perm (fun d : AdrData ↦ decide (d.counter = s.api.mCounter)) s.mADRdata
  have hnodup : ((sweep (fun d : AdrData ↦ decide (d.counter = s.api.mCounter)) s.mADRdata).map
      AdrData.key).Nodup :=
    (hperm.map _).nodup_iff.mpr (hinv.nodup.sublist (filter_sublist.map _))
  have hmem : ∀ d, d ∈ sweep (fun d : AdrData ↦ decide (d.counter = s.api.mCounter)) s.mADRdata ↔
      ∃ c, Phase l.current d.key c ∧ d = c.data s.api.mCounter := fun d ↦ by
    rw [hperm.mem_iff, mem_filter, hinv.mem, decide_eq_true_eq]
    constructor
    · rintro ⟨hd | ⟨-, ⟨c, -, rfl⟩, -⟩, hcounter⟩
      · exact hd
      · have hne : s.api.mCounter - 1 ≠ s.api.mCounter := by grind
        exact absurd hcounter hne
    · rintro ⟨c, hc, rfl⟩
      exact ⟨.inl ⟨c, hc, rfl⟩, rfl⟩
  refine ⟨⟨⟨hnodup, fun key ↦ ?_⟩, trivial⟩, hnodup, hinv.minInterval, fun d ↦ ?_⟩
  · rw [mem_map]
    constructor
    · rintro ⟨d, hd, rfl⟩
      obtain ⟨c, hc, -⟩ := (hmem d).mp hd
      exact ⟨c, hc⟩
    · rintro ⟨c, hc⟩
      exact ⟨c.data s.api.mCounter, (hmem _).mpr ⟨c, ⟨hc.1, rfl, hc.2.2⟩, rfl⟩, hc.2.1⟩
  · exact (hmem d).trans ⟨.inl, fun h ↦ h.resolve_right fun h ↦ nomatch h.1⟩

theorem sound_began {api : LocApiV02 Measured} (h : api.mCounter = s.api.mCounter + 1) :
    Sound s ({ s with api }, [.began]) := by
  intro l hinv hproper
  refine ⟨⟨trivial, trivial⟩, hinv.nodup, hinv.minInterval, fun d ↦ (hinv.mem d).trans ?_⟩
  have hcounter : api.mCounter - 1 = s.api.mCounter := by rw [h, UInt32.add_sub_cancel]
  simp only [foldl_cons, foldl_nil, Epochs.next, Phase, not_mem_nil, false_and,
    exists_false, false_or, not_false_eq_true, and_true, true_and, hcounter]
  rcases hproper.1 with hreported | ⟨hprevious, hcurrent⟩
  · simp [hreported]
  · simp [hprevious]

theorem Sound.of_mCounter {result : CarrierApi × List Output} (h : Sound s result)
    {api : LocApiV02 Measured} (hcounter : api.mCounter = result.1.api.mCounter) :
    Sound s ({ result.1 with api }, result.2) := fun l hinv hproper ↦ by
  obtain ⟨hexact, hnodup, hinterval, hmem⟩ := h l hinv hproper
  exact ⟨hexact, hnodup, hinterval, by rwa [← hcounter] at hmem⟩

variable (ind) in
theorem sound_beginEpoch : Sound s (s.beginEpoch ind) := by
  unfold CarrierApi.beginEpoch
  split
  · rename_i hbegins
    have hcounter : (s.api.beginEpoch ind.toGnssSvMeasInfoInd).1.mCounter = s.api.mCounter + 1 := by
      rw [LocApiV02.beginEpoch, if_pos hbegins]
    by_cases hnew : s.api.newMeasProcessed = true
    · rw [if_pos hnew]
      exact sound_reportSvMeasurementInternal.trans (sound_began hcounter)
    · rw [if_neg hnew]
      exact sound_began hcounter
  · exact fun l hinv _ ↦ ⟨trivial, hinv⟩

variable (s ind) in
theorem run_convertGnssMeasurements_api (ms : List (QmiLocSVMeasurement Measured)) :
    (run (fun s m ↦ s.convertGnssMeasurements ind m) s ms).1.api = s.api := by
  induction ms generalizing s with
  | nil => rfl
  | cons m ms ih => exact ih _

theorem sound_collectInd : Sound s (s.collectInd ind) := by
  have hcounter : (s.api.collectInd ind.toGnssSvMeasInfoInd).1.mCounter = s.api.mCounter := by
    unfold LocApiV02.collectInd
    split <;> rfl
  have hrun (ms : List (QmiLocSVMeasurement Measured)) :
      Sound s (run (fun s m ↦ s.convertGnssMeasurements ind m) s ms) :=
    Sound.run fun _ _ _ ↦ sound_convertGnssMeasurements
  have hcounter' (ms) := hcounter.trans
    (congrArg (·.mCounter) (run_convertGnssMeasurements_api s ind ms).symm)
  unfold CarrierApi.collectInd
  by_cases hlast : (ind.maxMessageNum = ind.seqNum &&
      ind.toGnssSvMeasInfoInd.maxSubSeqNum = ind.toGnssSvMeasInfoInd.subSeqNum) = true
  · simp only [if_pos hlast]
    exact ((hrun _).trans sound_reportSvMeasurementInternal).of_mCounter (hcounter' _)
  · simp only [if_neg hlast, List.append_nil]
    exact (hrun _).of_mCounter (hcounter' _)

theorem sound_step {e : Event} (h : ∀ v, e = .setMinInterval v → v ≤ 1000) :
    Sound s (s.step e) := by
  cases e with
  | reportGnssMeasurementData ind =>
    have hnone : Sound s (s, []) := fun _ hinv _ ↦ ⟨trivial, hinv⟩
    have hstart : Sound s ({ s with api := s.api.allocate }, []) := hnone.of_mCounter (by
      unfold LocApiV02.allocate
      split <;> rfl)
    have hbegun := hstart.trans (sound_beginEpoch ind)
    rw [CarrierApi.step, CarrierApi.reportGnssMeasurementData]
    dsimp only
    split
    · exact hstart
    · split
      · exact hbegun
      · exact hbegun.trans sound_collectInd
  | setMinInterval v => exact fun l hinv _ ↦ ⟨trivial, hinv.nodup, h v rfl, hinv.mem⟩

/-- The phase goes on exactly for the signals that had one in the epoch before, and the entries after
a report are for exactly the signals that had one in its epoch. -/
theorem carrierPhase_exact {events : List Event}
    (hinterval : ∀ v, .setMinInterval v ∈ events → v ≤ 1000)
    (hproper : Holds Proper .init (run CarrierApi.step .init events).2) :
    Holds Exact .init (run CarrierApi.step .init events).2 := by
  have hinit : Inv .init .init :=
    ⟨nodup_nil, by decide, by simp [CarrierApi.init, Epochs.init, Phase]⟩
  exact (Sound.run (fun s e he ↦ sound_step fun v hv ↦ hinterval v (hv ▸ he)) _ hinit hproper).1

/-- The measurement of a satellite in an indication that is a whole epoch -/
def exampleInd (validMask : UInt16) (cycleSlipCount : UInt8) : MeasInd where
  seqNum := 1
  maxMessageNum := 1
  subSeqNum? := none
  maxSubSeqNum? := none
  system := .gps
  systemTimeExt_valid := false
  refFCount := 0
  nHzMeasurement? := none
  numClockResets_valid := false
  systemMsec := 0
  jammerIndicator_valid := false
  svMeasurement := ⟨true, 1, .replicate _ ⟨7, 0x08000000, 0x08000000, ⟨validMask, 1, cycleSlipCount⟩⟩⟩
  extSvMeasurement := ⟨false, 0, .replicate _ ⟨0, 0, 0, ⟨0, 0, 0⟩⟩⟩
  gnssSignalType? := some 1

def exampleEvents : List Event :=
  [.reportGnssMeasurementData (exampleInd 0x50 3), .reportGnssMeasurementData (exampleInd 0x50 4)]

theorem carrierPhase_exact_slip :
    (run CarrierApi.step .init exampleEvents).2[4]? =
        some (.converted ⟨(.gps, 1, 7), ⟨0x50, 1, 4⟩, 5⟩) ∧
      Holds Exact .init (run CarrierApi.step .init exampleEvents).2 :=
  ⟨by decide +kernel, carrierPhase_exact (by simp [exampleEvents]) (by decide +kernel)⟩

end MataDevice.Measurements.CarrierPhase
