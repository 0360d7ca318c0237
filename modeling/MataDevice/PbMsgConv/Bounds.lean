import MataDevice.PbMsgConv.Decoders

/-!
# Which messages are decoded within the arrays

A message is decoded within the bounds of its lists and of the arrays when its lists are short
enough for the arrays, and long enough for what is read of them. Notifications of satellites need
no condition. The lists of the others come from the peer as long as it makes them.
-/

namespace MataDevice.PbMsgConv

open Bounded

variable {ρ PBSv Sv PBMeas Meas PBClock Clock : Type}

/-- A decoder, with a message and the object it is decoded into. -/
inductive Decoding (ρ PBSv Sv PBMeas Meas PBClock Clock : Type)
  | collectiveRes (pb : PBCollectiveResPayload) (payload : CollectiveResPayload)
  | batching (pb : PBLocAPIBatchNotification ρ) (notif : LocAPIBatchNotification ρ)
  | gfBreach (pb : PBLocAPIGeofenceBreachNotification ρ)
    (notif : LocAPIGeofenceBreachNotification ρ)
  | gnssSv (convertSv : PBSv → Sv → Sv) (pb : PBLocApiGnssSvNotification PBSv)
    (notif : GnssSvNotification Sv)
  | gnssData (pb : PBGnssDataNotification ρ) (notif : GnssDataNotification ρ)
  | gnssMeas (convertData : PBMeas → Meas → Meas) (convertClock : PBClock → Clock → Clock)
    (pb : PBGnssMeasurementsNotification PBMeas PBClock)
    (notif : GnssMeasurementsNotification Meas Clock)
  | gfAddReq (pb : PBGeofencesAddedReqPayload ρ) (payload : GeofencesAddedReqPayload ρ)
  | gfReqClientId (pb : PBGeofencesReqClientIdPayload) (payload : GeofencesReqClientIdPayload)

namespace Decoding

/-- All accesses of the decoder are to elements that are there. -/
def InBounds : Decoding ρ PBSv Sv PBMeas Meas PBClock Clock → Prop
  | .collectiveRes pb payload => (pbConvertToCollectiveResPayload pb payload).isSome
  | .batching pb notif => (pbConvertToLocAPIBatchNotification pb notif).isSome
  | .gfBreach pb notif => (pbConvertToLocAPIGfBreachNotification pb notif).isSome
  | .gnssSv convertSv pb notif => (pbConvertToGnssSvNotif convertSv pb notif).isSome
  | .gnssData pb notif => (pbConvertToGnssDataNotification pb notif).isSome
  | .gnssMeas convertData convertClock pb notif =>
    (pbConvertToGnssMeasNotification convertData convertClock pb notif).isSome
  | .gfAddReq pb payload => (pbConvertToGfAddReqPayload pb payload).isSome
  | .gfReqClientId pb payload => (pbConvertToGfReqClientIdPayload pb payload).isSome

/-- The lists of the message fit the arrays and the reads. -/
def Fits : Decoding ρ PBSv Sv PBMeas Meas PBClock Clock → Prop
  | .collectiveRes pb _ => pb.resp.length ≤ 1
  | .batching pb _ => pb.location.length ≤ 1
  | .gfBreach pb _ => pb.id ≠ []
  | .gnssSv _ _ _ => True
  | .gnssData pb _ =>
    ∀ i < min pb.numberSignalTypes.toNat GNSS_LOC_MAX_NUMBER_OF_SIGNAL_TYPES,
      i < pb.gnssDataMask.length ∧ i < pb.jammerInd.length ∧ i < pb.agc.length
  | .gnssMeas _ _ pb _ => pb.measurements.length ≤ GNSS_MEASUREMENTS_MAX
  | .gfAddReq pb _ => pb.gfPayload.length ≤ MAX_GEOFENCE_ENTRY
  | .gfReqClientId pb _ => pb.gfIds.length ≤ MAX_GEOFENCE_ENTRY

end Decoding

/-- What is computed from the result of a loop does not decide whether there is one. -/
theorem isSome_bind_pure {α β : Type} (x : Option α) (f : α → β) :
    (x.bind fun a ↦ some (f a)).isSome = x.isSome := by
  cases x <;> rfl

/-- A loop over all elements of a list, as most decoders have. -/
theorem isSome_bind_copy_length {α β γ : Type} {n : ℕ} {f : α → β → β} {src : List α}
    {dst : Vector β n} {g : Vector β n → γ} :
    ((copy f src src.length dst).bind fun dst' ↦ some (g dst')).isSome ↔ src.length ≤ n := by
  rw [isSome_bind_pure, isSome_copy]
  exact and_iff_right (Nat.le_refl _)

/-- A read of one list, then a write of one array. -/
theorem isSome_read_change {α β γ : Type} {n : ℕ} {k : Vector β n → Option γ} (src : List α)
    (dst : Vector β n) (i : ℕ) (f : α → β → β) (ok : Prop) (hk : ∀ dst', (k dst').isSome ↔ ok) :
    (src[i]?.bind fun x ↦ (change dst i (f x)).bind k).isSome ↔
      i < src.length ∧ i < n ∧ ok := by
  by_cases hi : i < src.length
  · rw [List.getElem?_eq_getElem hi, Option.bind_some]
    unfold change
    split <;> simp_all
  · rw [List.getElem?_eq_none (by omega)]
    simp [hi]

theorem isSome_pbConvertToLocAPIGfBreachNotification
    (pb : PBLocAPIGeofenceBreachNotification ρ) (notif : LocAPIGeofenceBreachNotification ρ) :
    (pbConvertToLocAPIGfBreachNotification pb notif).isSome ↔ pb.id ≠ [] := by
  unfold pbConvertToLocAPIGfBreachNotification
  cases hid : pb.id with
  | nil => simp
  | cons id₀ ids => simp [change]

theorem isSome_pbConvertToGnssSvNotif (convertSv : PBSv → Sv → Sv)
    (pb : PBLocApiGnssSvNotification PBSv) (notif : GnssSvNotification Sv) :
    (pbConvertToGnssSvNotif convertSv pb notif).isSome := by
  have hcopy : (copy convertSv pb.gnssSvs (min pb.gnssSvs.length GNSS_SV_MAX)
      notif.gnssSvs).isSome := isSome_copy.mpr ⟨Nat.min_le_left _ _, Nat.min_le_right _ _⟩
  rw [← isSome_bind_pure _ fun gnssSvs ↦
    (⟨min pb.gnssSvs.length GNSS_SV_MAX, pb.gnssSignalTypeMaskValid, gnssSvs⟩ :
      GnssSvNotification Sv)] at hcopy
  exact hcopy

theorem isSome_pbConvertToGnssDataNotification (pb : PBGnssDataNotification ρ)
    (notif : GnssDataNotification ρ) :
    (pbConvertToGnssDataNotification pb notif).isSome ↔
      ∀ i < min pb.numberSignalTypes.toNat GNSS_LOC_MAX_NUMBER_OF_SIGNAL_TYPES,
        i < pb.gnssDataMask.length ∧ i < pb.jammerInd.length ∧ i < pb.agc.length := by
  unfold pbConvertToGnssDataNotification
  rw [isSome_forUpTo (fun i ↦
    (i < pb.gnssDataMask.length ∧ i < pb.jammerInd.length ∧ i < pb.agc.length) ∧
      i < GNSS_LOC_MAX_NUMBER_OF_SIGNAL_TYPES)]
  · constructor
    · intro h i hi
      exact (h i hi).1
    · intro h i hi
      exact ⟨h i hi, (Nat.lt_min.mp hi).2⟩
  · intro i notif
    have hagc : ∀ gnssDataMask jammerInd, _ := fun gnssDataMask jammerInd ↦
      isSome_read_change pb.agc notif.agc i (fun gain _ ↦ gain) True fun agc ↦
        iff_of_true
          (rfl : (some (⟨gnssDataMask, jammerInd, agc⟩ : GnssDataNotification ρ)).isSome) trivial
    have hjammerInd : ∀ gnssDataMask, _ := fun gnssDataMask ↦
      isSome_read_change pb.jammerInd notif.jammerInd i (fun ind _ ↦ ind) _ (hagc gnssDataMask)
    have hread := isSome_read_change pb.gnssDataMask notif.gnssDataMask i
      (fun mask _ ↦ getGnssDataMaskFromPB mask) _ hjammerInd
    refine Iff.trans hread ?_
    tauto

/-- A message is decoded within bounds exactly when it fits. -/
theorem inBounds_iff_fits (d : Decoding ρ PBSv Sv PBMeas Meas PBClock Clock) :
    d.InBounds ↔ d.Fits := by
  cases d with
  | collectiveRes pb payload => exact isSome_bind_copy_length
  | batching pb notif => exact isSome_bind_copy_length
  | gfBreach pb notif => exact isSome_pbConvertToLocAPIGfBreachNotification pb notif
  | gnssSv convertSv pb notif =>
    exact iff_of_true (isSome_pbConvertToGnssSvNotif convertSv pb notif) trivial
  | gnssData pb notif => exact isSome_pbConvertToGnssDataNotification pb notif
  | gnssMeas convertData convertClock pb notif => exact isSome_bind_copy_length
  | gfAddReq pb payload => exact isSome_bind_copy_length
  | gfReqClientId pb payload => exact isSome_bind_copy_length

/-- The second response of a message is written behind the array. -/
theorem not_inBounds : ¬∀ d : Decoding Unit Unit Unit Unit Unit Unit Unit, d.InBounds := by
  intro h
  have hres := h (.collectiveRes ⟨[⟨1, .success⟩, ⟨2, .success⟩]⟩ ⟨0, #v[⟨0, .success⟩]⟩)
  revert hres
  change ¬(_ : Option CollectiveResPayload).isSome = true
  decide

end MataDevice.PbMsgConv
