import MataDevice.PbMsgConv.Decoders
import Mathlib.Tactic.Common

/-!
# Encoding and decoding messages with lists

The sender of a message allocates it with room for its whole list, and the encoder sends the list.
What is decoded is an object with an array of one element. A longer list does not fit, and of a
breach the decoder reads the first id only and leaves the count. Of a location, a `PBLocation` has
a part: comparing what would be sent of two locations ignores what is not part of it.

The decoder changes an object that was not initialized, so that what it leaves may be anything.
-/

namespace MataDevice.PbMsgConv

open Bounded List

variable {ρ : Type}

/-! ## Encoders -/

def convertLocationToPB (location : Location ρ) : PBLocation ρ where
  flags := getPBMaskForLocationFlagsMask location.flags.toUInt32
  timestamp := location.timestamp
  latitude := location.latitude
  longitude := location.longitude
  altitude := location.altitude
  speed := location.speed
  bearing := location.bearing
  horizontalAccuracy := location.accuracy
  verticalAccuracy := location.verticalAccuracy
  speedAccuracy := location.speedAccuracy
  bearingAccuracy := location.bearingAccuracy
  techMask := getPBMaskForLocationTechnologyMask location.techMask.toUInt32

/-- A `CollectiveResPayload` in the memory of its sender -/
structure SentCollectiveRes where
  count : ℕ
  resp : List GeofenceResponse

def convertCollectiveResPayloadToPB (collctResPload : SentCollectiveRes) :
    Option PBCollectiveResPayload := do
  let resp ← collect (fun resp ↦ ⟨resp.clientId, getPBEnumForLocationError resp.error⟩)
    collctResPload.resp collctResPload.count
  return ⟨resp⟩

/-- A `LocAPIBatchNotification` in the memory of its sender -/
structure SentBatch (ρ : Type) where
  count : ℕ
  status : BatchingStatus
  location : List (Location ρ)

def convertLocAPIBatchingNotifMsgToPB (locApiBatchNotifMsg : SentBatch ρ) :
    Option (PBLocAPIBatchNotification ρ) := do
  let location ← collect convertLocationToPB locApiBatchNotifMsg.location
    locApiBatchNotifMsg.count
  return ⟨getPBEnumForBatchingStatus locApiBatchNotifMsg.status, location⟩

/-- A `LocAPIGeofenceBreachNotification` in the memory of its sender -/
structure SentGfBreach (ρ : Type) where
  count : ℕ
  timestamp : UInt64
  type : UInt16
  location : Location ρ
  id : List UInt32

/-- The type is sent without a conversion. -/
def convertLocAPIGfBreachNotifToPB (locApiGfBreachNotif : SentGfBreach ρ) :
    Option (PBLocAPIGeofenceBreachNotification ρ) := do
  let id ← collect (fun id ↦ id) locApiGfBreachNotif.id locApiGfBreachNotif.count
  return ⟨locApiGfBreachNotif.timestamp, locApiGfBreachNotif.type.toUInt32,
    convertLocationToPB locApiGfBreachNotif.location, id⟩

/-! ## Masks -/

theorem and_bit_ne_zero (mask : UInt32) (bit : ℕ) :
    (mask &&& ⟨BitVec.twoPow 32 bit⟩ != 0) = mask.toBitVec.getLsbD bit := by
  have hand : mask &&& ⟨BitVec.twoPow 32 bit⟩ =
      ⟨if mask.toBitVec.getLsbD bit then BitVec.twoPow 32 bit else 0⟩ := by
    rw [← UInt32.toBitVec_inj, UInt32.toBitVec_and, BitVec.and_twoPow]
    rfl
  rw [hand]
  cases hm : mask.toBitVec.getLsbD bit with
  | false => rfl
  | true =>
    have hlt := BitVec.lt_of_getLsbD hm
    have hone : (BitVec.twoPow 32 bit).getLsbD bit = true := by simp [hlt]
    rw [if_pos rfl, bne_iff_ne]
    intro hzero
    have htwo : BitVec.twoPow 32 bit = 0 := UInt32.toBitVec_inj.mpr hzero
    rw [htwo] at hone
    simp at hone

/-- A conversion keeps the bits that it goes through. -/
theorem getLsbD_convertBits (bits : List ℕ) (mask : UInt32) (i : ℕ) :
    (convertBits bits mask).toBitVec.getLsbD i =
      (decide (i ∈ bits) && mask.toBitVec.getLsbD i) := by
  suffices h : ∀ acc : UInt32, (bits.foldl
      (fun converted bit ↦
        if mask &&& ⟨BitVec.twoPow 32 bit⟩ != 0 then converted ||| ⟨BitVec.twoPow 32 bit⟩
        else converted) acc).toBitVec.getLsbD i =
      (acc.toBitVec.getLsbD i || (decide (i ∈ bits) && mask.toBitVec.getLsbD i)) by
    rw [convertBits, h]
    simp
  induction bits with
  | nil => simp
  | cons bit bits ih =>
    intro acc
    rw [foldl_cons, ih, and_bit_ne_zero]
    cases hm : mask.toBitVec.getLsbD bit with
    | false =>
      by_cases hi : i = bit
      · simp [hi, hm]
      · simp [hi]
    | true =>
      have hlt := BitVec.lt_of_getLsbD hm
      by_cases hi : i = bit
      · simp [hi, hm, hlt]
      · simp [hi, Ne.symm hi, BitVec.getLsbD_twoPow]

/-- What was converted is not changed by converting it back and again. -/
theorem convertBits_convertBits {n : ℕ} (hn : n ≤ 16) (mask : UInt32) :
    convertBits (List.range n)
        (convertBits (List.range n) (convertBits (List.range n) mask)).toUInt16.toUInt32 =
      convertBits (List.range n) mask := by
  rw [← UInt32.toBitVec_inj]
  refine BitVec.eq_of_getLsbD_eq fun i hi ↦ ?_
  simp only [getLsbD_convertBits, UInt16.toBitVec_toUInt32, BitVec.getLsbD_setWidth,
    UInt32.toBitVec_toUInt16, mem_range]
  by_cases hin : i < n
  · simp [hin, hi]
    omega
  · simp [hin]

/-- Sending a location that was received sends the same. -/
theorem convertLocationToPB_pbConvertToLocation (location loc : Location ρ) :
    convertLocationToPB (pbConvertToLocation (convertLocationToPB location) loc) =
      convertLocationToPB location := by
  have hflags := convertBits_convertBits (n := 8) (by decide) location.flags.toUInt32
  have htech := convertBits_convertBits (n := 11) (by decide) location.techMask.toUInt32
  unfold convertLocationToPB pbConvertToLocation
  simp only [PBLocation.mk.injEq, true_and]
  exact ⟨hflags, htech⟩

/-! ## What survives -/

/-- The errors that a `PBLocationError` has a value for -/
def errorsOfPB : List LocationError :=
  [.success, .invalidParameter, .notSupported, .generalFailure, .timeout]

theorem getEnum_getPBEnum {error : LocationError} (h : error ∈ errorsOfPB) :
    getEnumForPBLocationError (getPBEnumForLocationError error) = error := by
  simp only [errorsOfPB, mem_cons, not_mem_nil, or_false] at h
  rcases h with rfl | rfl | rfl | rfl | rfl <;> rfl

/-- What a sender has to tell. A breach type has bits that are defined. -/
inductive Notification (ρ : Type)
  | collectiveRes (resp : List GeofenceResponse) (herror : ∀ r ∈ resp, r.error ∈ errorsOfPB)
  | batching (status : BatchingStatus) (location : List (Location ρ))
  | gfBreach (timestamp : UInt64) (type : UInt16)
    (htype : ∀ i, type.toBitVec.getLsbD i → i < geofenceBreachTypeBits.length)
    (location : Location ρ) (id : List UInt32)

namespace Notification

/-- Encoded and decoded, the message has what the sender told, with locations compared by `same`. -/
def Survives (same : Location ρ → Location ρ → Prop) : Notification ρ → Prop
  | collectiveRes resp _ =>
    ∀ old, ∃ pb, convertCollectiveResPayloadToPB ⟨resp.length, resp⟩ = some pb ∧
      ∃ payload, pbConvertToCollectiveResPayload pb old = some payload ∧
        payload.count = resp.length ∧ payload.resp.toList.take payload.count = resp
  | batching status location =>
    ∀ old, ∃ pb, convertLocAPIBatchingNotifMsgToPB ⟨location.length, status, location⟩ = some pb ∧
      ∃ notif, pbConvertToLocAPIBatchNotification pb old = some notif ∧
        notif.status = status ∧ notif.count = location.length ∧
        List.Forall₂ same (notif.location.toList.take notif.count) location
  | gfBreach timestamp type _ location id =>
    ∀ old, ∃ pb,
      convertLocAPIGfBreachNotifToPB ⟨id.length, timestamp, type, location, id⟩ = some pb ∧
      ∃ notif, pbConvertToLocAPIGfBreachNotification pb old = some notif ∧
        notif.timestamp = timestamp ∧ notif.type = type ∧ same notif.location location ∧
        notif.count = id.length ∧ notif.id.toList.take notif.count = id

/-- At most one response or location. A breach tells how many ids it has. -/
def Single : Notification ρ → Prop
  | collectiveRes resp _ => resp.length ≤ 1
  | batching _ location => location.length ≤ 1
  | gfBreach .. => False

def HasLocations : Notification ρ → Prop
  | collectiveRes .. => False
  | batching _ location => location ≠ []
  | gfBreach .. => True

end Notification

/-- Two locations of which the same is sent -/
def SameForPB (location location' : Location ρ) : Prop :=
  convertLocationToPB location = convertLocationToPB location'

section Encoded

theorem convertCollectiveResPayloadToPB_length (resp : List GeofenceResponse) :
    convertCollectiveResPayloadToPB ⟨resp.length, resp⟩ =
      some ⟨resp.map fun resp ↦ ⟨resp.clientId, getPBEnumForLocationError resp.error⟩⟩ := by
  simp [convertCollectiveResPayloadToPB, collect_length]

theorem convertLocAPIBatchingNotifMsgToPB_length (status : BatchingStatus)
    (location : List (Location ρ)) :
    convertLocAPIBatchingNotifMsgToPB ⟨location.length, status, location⟩ =
      some ⟨getPBEnumForBatchingStatus status, location.map convertLocationToPB⟩ := by
  simp [convertLocAPIBatchingNotifMsgToPB, collect_length]

end Encoded

section Decoded

variable {same : Location ρ → Location ρ → Prop}

/-- Of one response or none, all survives; more do not fit. -/
theorem survives_collectiveRes {resp : List GeofenceResponse}
    {herror : ∀ r ∈ resp, r.error ∈ errorsOfPB} :
    (Notification.collectiveRes resp herror).Survives same ↔ resp.length ≤ 1 := by
  simp only [Notification.Survives, convertCollectiveResPayloadToPB_length, Option.some.injEq,
    exists_eq_left', pbConvertToCollectiveResPayload]
  match resp with
  | [] => simp [copy, forUpTo]
  | [r] =>
    have hr := getEnum_getPBEnum (herror r (mem_singleton.mpr rfl))
    simp [copy_singleton, hr]
  | r :: r' :: rs =>
    refine iff_of_false (fun h ↦ ?_) (by simp)
    obtain ⟨payload, hpayload, -⟩ := h ⟨0, #v[r]⟩
    rw [copy_eq_none (by simp)] at hpayload
    cases hpayload

/-- The locations that survive are of one element or none. -/
theorem survives_batching {status : BatchingStatus} {location : List (Location ρ)} :
    (Notification.batching status location).Survives same ↔ location.length ≤ 1 ∧
      ∀ loc ∈ location, ∀ old, same (pbConvertToLocation (convertLocationToPB loc) old) loc := by
  have hstatus : getEnumForPBBatchingStatus (getPBEnumForBatchingStatus status) = status := by
    cases status <;> rfl
  simp only [Notification.Survives, convertLocAPIBatchingNotifMsgToPB_length, Option.some.injEq,
    exists_eq_left', pbConvertToLocAPIBatchNotification, hstatus]
  match location with
  | [] => simp [copy, forUpTo]
  | [loc] =>
    simp only [map_singleton, length_singleton, copy_singleton]
    constructor
    · intro h
      refine ⟨Nat.le_refl _, fun loc' hloc old ↦ ?_⟩
      obtain rfl := mem_singleton.mp hloc
      obtain ⟨notif, hnotif, -, hcount, hsame⟩ := h ⟨0, status, #v[old]⟩
      obtain rfl := Option.some_inj.mp hnotif
      simpa using hsame
    · rintro ⟨-, hsame⟩ old
      refine ⟨_, rfl, rfl, rfl, ?_⟩
      simpa using hsame loc (mem_singleton.mpr rfl) old.location[0]
  | loc :: loc' :: locs =>
    refine iff_of_false (fun h ↦ ?_) (by simp)
    obtain ⟨notif, hnotif, -⟩ := h ⟨0, status, #v[loc]⟩
    rw [copy_eq_none (by simp)] at hnotif
    cases hnotif

/-- The count of a breach is left, so it may be another one. -/
theorem not_survives_gfBreach {timestamp : UInt64} {type : UInt16}
    {htype : ∀ i, type.toBitVec.getLsbD i → i < geofenceBreachTypeBits.length}
    {location : Location ρ} {id : List UInt32} :
    ¬(Notification.gfBreach timestamp type htype location id).Survives same := by
  intro h
  obtain ⟨pb, -, notif, hnotif, -, -, -, hcount, -⟩ :=
    h ⟨id.length + 1, timestamp, type, location, #v[0]⟩
  unfold pbConvertToLocAPIGfBreachNotification at hnotif
  obtain ⟨id₀, -, hnotif⟩ := Option.bind_eq_some_iff.mp hnotif
  obtain ⟨id', -, hnotif⟩ := Option.bind_eq_some_iff.mp hnotif
  obtain rfl := Option.some_inj.mp hnotif
  simp at hcount

/-- The time since boot is not part of a `PBLocation`. -/
theorem exists_pbConvertToLocation_ne (location : Location ρ) :
    ∃ old, pbConvertToLocation (convertLocationToPB location) old ≠ location := by
  refine ⟨{ location with elapsedRealTime := location.elapsedRealTime + 1 }, fun h ↦ ?_⟩
  have htime : location.elapsedRealTime + 1 = location.elapsedRealTime :=
    congrArg Location.elapsedRealTime h
  simp at htime

/-- A notification survives as a whole exactly when it has at most one response, or no location and
is not a breach. Without what a `PBLocation` does not have, one location survives as well. -/
theorem survives_iff (n : Notification ρ) :
    (n.Survives Eq ↔ n.Single ∧ ¬n.HasLocations) ∧ (n.Survives SameForPB ↔ n.Single) := by
  cases n with
  | collectiveRes resp herror =>
    exact ⟨survives_collectiveRes.trans (and_iff_left not_false).symm, survives_collectiveRes⟩
  | batching status location =>
    constructor
    · rw [survives_batching]
      refine and_congr_right fun _ ↦ ?_
      constructor
      · intro hsame hne
        obtain ⟨loc, hloc⟩ := exists_mem_of_ne_nil location hne
        obtain ⟨old, hold⟩ := exists_pbConvertToLocation_ne loc
        exact hold (hsame loc hloc old)
      · intro hnil loc hloc
        obtain rfl : location = [] := Classical.not_not.mp hnil
        cases hloc
    · rw [survives_batching]
      exact and_iff_left fun loc _ old ↦ convertLocationToPB_pbConvertToLocation loc old
  | gfBreach timestamp type htype location id =>
    exact ⟨iff_of_false not_survives_gfBreach fun h ↦ h.1, iff_of_false not_survives_gfBreach not_false⟩

end Decoded

/-- Two responses do not survive. -/
theorem not_survives : ¬∀ n : Notification Unit, n.Survives Eq := by
  intro h
  obtain ⟨pb, hpb, payload, hpayload, -⟩ :=
    h (.collectiveRes [⟨1, .success⟩, ⟨2, .success⟩] (by decide)) ⟨0, #v[⟨0, .success⟩]⟩
  obtain rfl := Option.some_inj.mp hpb
  cases hpayload

end MataDevice.PbMsgConv
