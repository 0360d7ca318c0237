import MataDevice.Lib.Bounded
import MataDevice.PbMsgConv.Decoders
import Mathlib.Tactic

/-!
# Adding geofences

A geofence is added when it is bound to an implementation, which has an id of its own. A call adds
those of a vector that were not added before. Their options and positions are put into arrays at the
indices that they have in the vector, but their ids into a vector of their own, one after the other.
The id of a geofence is then looked up by its index, and so are the three parts of what is sent, for
as many indices as the vector has.

Reading what was never written has no result. The theorem says when the call has one and does what
it should.
-/

namespace MataDevice.ClientApi

open List
open PbMsgConv (GeofenceOption GeofenceInfo GeofencePayload MAX_GEOFENCE_ENTRY)
open Bounded (forUpTo)
open Option (bind_eq_bind bind_some isSome_bind isSome_of_any map_some any_some not_isSome or_none)

variable {ρ : Type}

/-! ## Data -/

structure Geofence (ρ : Type) where
  /-- The id of the implementation -/
  mGeofenceImpl : Option UInt32
  mLatitude : ρ
  mLongitude : ρ
  mRadius : ρ
  mBreachType : UInt16
  mResponsiveness : UInt32
  mDwellTime : UInt32
  deriving DecidableEq, Repr

namespace Geofence

variable (geofence : Geofence ρ)

def option : GeofenceOption :=
  ⟨geofence.mBreachType, geofence.mResponsiveness, geofence.mDwellTime⟩

def info : GeofenceInfo ρ := ⟨geofence.mLatitude, geofence.mLongitude, geofence.mRadius⟩

def bindGeofence (id : UInt32) : Geofence ρ := { geofence with mGeofenceImpl := some id }

end Geofence

/-- What the client keeps of geofences -/
structure GeofenceClient (ρ : Type) where
  gfIdGenerator : UInt32
  mLastAddedClientIds : List UInt32
  mGeofenceMap : UInt32 → Option (Geofence ρ)

/-- The client with the vector of geofences and the two arrays, which are not set when they are
allocated -/
structure Adding (ρ : Type) where
  client : GeofenceClient ρ
  geofences : List (Geofence ρ)
  gfOptions : List (Option GeofenceOption)
  gfInfos : List (Option (GeofenceInfo ρ))

/-! ## Functions -/

/-- The id that comes next. It is the new value of the generator. -/
def nextId (gfIdGenerator : UInt32) : UInt32 :=
  if gfIdGenerator + 1 = 0xFFFFFFFF then 0 else gfIdGenerator + 1

/-- What is in the map stays there. -/
def addGeofenceMap (id : UInt32) (geofence : Geofence ρ)
    (mGeofenceMap : UInt32 → Option (Geofence ρ)) : UInt32 → Option (Geofence ρ) :=
  if (mGeofenceMap id).isSome then mGeofenceMap
  else Function.update mGeofenceMap id (some geofence)

/-- The body of the loop over the vector -/
def addGeofence (i : ℕ) (s : Adding ρ) : Option (Adding ρ) := do
  let geofence ← s.geofences[i]?
  if geofence.mGeofenceImpl.isSome then return s
  let id := nextId s.client.gfIdGenerator
  let mLastAddedClientIds := s.client.mLastAddedClientIds ++ [id]
  -- the id is looked up by the index of the geofence
  let lastAdded ← mLastAddedClientIds[i]?
  return {
    client := {
      gfIdGenerator := id
      mLastAddedClientIds := mLastAddedClientIds
      mGeofenceMap := addGeofenceMap lastAdded (geofence.bindGeofence id) s.client.mGeofenceMap }
    geofences := s.geofences.set i (geofence.bindGeofence id)
    gfOptions := s.gfOptions.set i (some geofence.option)
    gfInfos := s.gfInfos.set i (some geofence.info) }

/-- The payload at an index -/
def payloadAt (s : Adding ρ) (i : ℕ) : Option (GeofencePayload ρ) := do
  let gfClientId ← s.client.mLastAddedClientIds[i]?
  let gfOption ← s.gfOptions[i]?.join
  let gfInfo ← s.gfInfos[i]?.join
  return ⟨gfClientId, gfOption, gfInfo⟩

/-- `AddGeofencesReq::proc`, which runs later. `none` inside: nothing is sent. -/
def procAddGeofences (mHalRegistered : Bool) (mGfCount : UInt32) (s : Adding ρ) :
    Option (Option (List (GeofencePayload ρ))) :=
  if !mHalRegistered then some none
  else if mGfCount > 0 then do
    let gfCountUsed := min MAX_GEOFENCE_ENTRY mGfCount.toNat
    let gfPayload ← forUpTo
      (fun i gfPayload ↦ (payloadAt s i).map fun payload ↦ gfPayload ++ [payload]) gfCountUsed []
    return some gfPayload
  else some none

/-- The state after the call, and what is sent to the daemon -/
structure Added (ρ : Type) where
  client : GeofenceClient ρ
  geofences : List (Geofence ρ)
  sent : Option (List (GeofencePayload ρ))

/-- With a callback for breaches, without which the call does nothing. -/
def addGeofences (mHalRegistered : Bool) (geofences : List (Geofence ρ))
    (client : GeofenceClient ρ) : Option (Added ρ) := do
  let client := { client with mLastAddedClientIds := [] }
  let count := geofences.length
  if count > 0 then
    let s ← forUpTo addGeofence count
      ⟨client, geofences, List.replicate count none, List.replicate count none⟩
    let sent ← procAddGeofences mHalRegistered (UInt32.ofNat count) s
    return ⟨s.client, s.geofences, sent⟩
  else return ⟨client, geofences, none⟩

/-! ## What the call should do -/

def newOnes (geofences : List (Geofence ρ)) : List (Geofence ρ) :=
  geofences.filter fun geofence ↦ geofence.mGeofenceImpl.isNone

/-- The geofences that were not added get the ids. -/
def bindAll : List (Geofence ρ) → List UInt32 → List (Geofence ρ)
  | [], _ => []
  | geofence :: geofences, ids =>
    match geofence.mGeofenceImpl, ids with
    | none, id :: ids => geofence.bindGeofence id :: bindAll geofences ids
    | _, ids => geofence :: bindAll geofences ids

def payload (id : UInt32) (geofence : Geofence ρ) : GeofencePayload ρ :=
  ⟨id, geofence.option, geofence.info⟩

/-- Each geofence that was not added got an id that no other has, was sent with it and bound to it,
and nothing else changed. -/
structure Paired (geofences : List (Geofence ρ)) (client : GeofenceClient ρ) (ids : List UInt32)
    (r : Added ρ) : Prop where
  nodup : ids.Nodup
  fresh : ∀ id ∈ ids, client.mGeofenceMap id = none
  length : ids.length = (newOnes geofences).length
  sent : r.sent.getD [] = List.zipWith payload ids (newOnes geofences)
  bound : r.geofences = bindAll geofences ids
  map : ∀ id, r.client.mGeofenceMap id =
    (((ids.zip (newOnes geofences)).lookup id).map fun geofence ↦ geofence.bindGeofence id).or
      (client.mGeofenceMap id)

/-! ## The ids -/

/-- The ids that come next -/
def idsFrom (gfIdGenerator : UInt32) (n : ℕ) : List UInt32 :=
  (List.range n).map fun k ↦ nextId^[k + 1] gfIdGenerator

theorem length_idsFrom (gfIdGenerator : UInt32) (n : ℕ) : (idsFrom gfIdGenerator n).length = n := by
  rw [idsFrom, length_map, length_range]

theorem idsFrom_succ (gfIdGenerator : UInt32) (n : ℕ) :
    idsFrom gfIdGenerator (n + 1) =
      idsFrom gfIdGenerator n ++ [nextId (nextId^[n] gfIdGenerator)] := by
  rw [idsFrom, range_succ, map_append, ← idsFrom, map_singleton,
    Function.iterate_succ_apply']

theorem toNat_nextId {gfIdGenerator : UInt32} (h : gfIdGenerator.toNat < 2 ^ 32 - 1) :
    (nextId gfIdGenerator).toNat = (gfIdGenerator.toNat + 1) % (2 ^ 32 - 1) := by
  have hadd : (gfIdGenerator + 1).toNat = gfIdGenerator.toNat + 1 := by
    rw [UInt32.toNat_add, UInt32.toNat_one, Nat.mod_eq_of_lt (by omega)]
  rw [nextId]
  split
  · next hlast =>
    rw [hlast] at hadd
    rw [← hadd]
    rfl
  · next hne =>
    have hne' : (gfIdGenerator + 1).toNat ≠ 2 ^ 32 - 1 := fun heq ↦ hne (UInt32.toNat_inj.mp heq)
    rw [hadd, Nat.mod_eq_of_lt (by omega)]

theorem toNat_nextId_iterate {gfIdGenerator : UInt32} (h : gfIdGenerator.toNat < 2 ^ 32 - 1)
    (k : ℕ) : (nextId^[k] gfIdGenerator).toNat = (gfIdGenerator.toNat + k) % (2 ^ 32 - 1) := by
  induction k with
  | zero => exact (Nat.mod_eq_of_lt h).symm
  | succ k ih =>
    have hlt : (nextId^[k] gfIdGenerator).toNat < 2 ^ 32 - 1 := by
      rw [ih]
      exact Nat.mod_lt _ (by decide)
    rw [Function.iterate_succ_apply', toNat_nextId hlt, ih, Nat.mod_add_mod, Nat.add_assoc]

/-- The generator may have the value that it never gets. It goes on as from the one before. -/
theorem exists_idsFrom_eq (gfIdGenerator : UInt32) (n : ℕ) :
    ∃ start : UInt32, start.toNat < 2 ^ 32 - 1 ∧ idsFrom gfIdGenerator n = idsFrom start n := by
  by_cases h : gfIdGenerator.toNat < 2 ^ 32 - 1
  · exact ⟨gfIdGenerator, h, rfl⟩
  · have hlast : gfIdGenerator = 0xFFFFFFFF := by
      refine UInt32.toNat_inj.mp ?_
      have hlt := gfIdGenerator.toNat_lt
      change gfIdGenerator.toNat = 2 ^ 32 - 1
      omega
    refine ⟨0xFFFFFFFE, by decide, map_congr_left fun k _ ↦ ?_⟩
    rw [Function.iterate_succ_apply, Function.iterate_succ_apply, hlast]
    rfl

theorem nodup_idsFrom (gfIdGenerator : UInt32) {n : ℕ} (h : n ≤ 2 ^ 32 - 1) :
    (idsFrom gfIdGenerator n).Nodup := by
  obtain ⟨start, hstart, heq⟩ := exists_idsFrom_eq gfIdGenerator n
  rw [heq, idsFrom]
  refine List.Nodup.map_on (fun i hi j hj hij ↦ ?_) nodup_range
  have hi' := mem_range.mp hi
  have hj' := mem_range.mp hj
  have hnat := congrArg UInt32.toNat hij
  rw [toNat_nextId_iterate hstart, toNat_nextId_iterate hstart] at hnat
  omega

/-! ## The loop -/

section Loop

variable (client : GeofenceClient ρ) (geofences : List (Geofence ρ))

/-- The state of the loop when the first `m` geofences were added -/
def stateAt (m : ℕ) : Adding ρ where
  client := {
    gfIdGenerator := nextId^[m] client.gfIdGenerator
    mLastAddedClientIds := idsFrom client.gfIdGenerator m
    mGeofenceMap := ((idsFrom client.gfIdGenerator m).zip (geofences.take m)).foldl
      (fun map p ↦ addGeofenceMap p.1 (p.2.bindGeofence p.1) map) client.mGeofenceMap }
  geofences := List.zipWith (fun id geofence ↦ geofence.bindGeofence id)
    (idsFrom client.gfIdGenerator m) (geofences.take m) ++ geofences.drop m
  gfOptions := (geofences.take m).map (fun geofence ↦ some geofence.option) ++
    List.replicate (geofences.length - m) none
  gfInfos := (geofences.take m).map (fun geofence ↦ some geofence.info) ++
    List.replicate (geofences.length - m) none

theorem stateAt_zero : stateAt client geofences 0 =
    ⟨{ client with mLastAddedClientIds := [] }, geofences, List.replicate geofences.length none,
      List.replicate geofences.length none⟩ := rfl

variable {client geofences} {m i : ℕ} {geofence : Geofence ρ}

theorem getElem?_stateAt_geofences (hm : m ≤ geofences.length) (h : m ≤ i) :
    (stateAt client geofences m).geofences[i]? = geofences[i]? := by
  have hlength : (List.zipWith (fun id (geofence : Geofence ρ) ↦ geofence.bindGeofence id)
      (idsFrom client.gfIdGenerator m) (geofences.take m)).length = m := by
    rw [length_zipWith, length_idsFrom, length_take, Nat.min_eq_left hm, Nat.min_self]
  rw [stateAt, getElem?_append_right (hlength.le.trans h), hlength, getElem?_drop,
    Nat.add_sub_cancel' h]

theorem addGeofence_of_added (hm : m ≤ geofences.length) (h : m ≤ i)
    (hget : geofences[i]? = some geofence) (hadded : geofence.mGeofenceImpl.isSome = true) :
    addGeofence i (stateAt client geofences m) = some (stateAt client geofences m) := by
  rw [addGeofence, getElem?_stateAt_geofences hm h, hget]
  exact if_pos hadded

/-- After one that was skipped there are fewer ids than geofences. -/
theorem addGeofence_of_skipped (hm : m ≤ geofences.length) (h : m < i)
    (hget : geofences[i]? = some geofence) (hnew : geofence.mGeofenceImpl.isSome = false) :
    addGeofence i (stateAt client geofences m) = none := by
  have hids : ((stateAt client geofences m).client.mLastAddedClientIds ++
      [nextId (stateAt client geofences m).client.gfIdGenerator])[i]? = none := by
    refine getElem?_eq_none ?_
    rw [length_append, length_singleton]
    exact (Nat.add_le_add_right (length_idsFrom _ m).le 1).trans h
  rw [addGeofence, getElem?_stateAt_geofences hm h.le, hget, bind_eq_bind,
    bind_some, if_neg (by rw [hnew]; exact Bool.false_ne_true)]
  dsimp only
  rw [hids]
  rfl

/-- Writing after the part that is written -/
theorem set_append_cons {α : Type} {l l' : List α} (x y : α) (h : l.length = m) :
    (l ++ y :: l').set m x = l ++ [x] ++ l' := by
  rw [set_append_right _ _ h.le, h, Nat.sub_self, set_cons_zero, append_assoc,
    singleton_append]

theorem addGeofence_of_new (hget : geofences[m]? = some geofence)
    (hnew : geofence.mGeofenceImpl.isSome = false) :
    addGeofence m (stateAt client geofences m) = some (stateAt client geofences (m + 1)) := by
  obtain ⟨hlt, hget'⟩ := List.getElem?_eq_some_iff.mp hget
  have htake : geofences.take (m + 1) = geofences.take m ++ [geofence] := by
    rw [take_succ_eq_append_getElem hlt, hget']
  have hlength : (geofences.take m).length = m := by
    rw [length_take, Nat.min_eq_left hlt.le]
  have hids := length_idsFrom client.gfIdGenerator m
  have hreplicate : ∀ {α : Type} (x : α), List.replicate (geofences.length - m) x =
      x :: List.replicate (geofences.length - (m + 1)) x := fun x ↦ by
    rw [← replicate_succ, Nat.sub_add_eq, Nat.sub_add_cancel (by omega)]
  have hlast : (idsFrom client.gfIdGenerator m ++ [nextId (nextId^[m] client.gfIdGenerator)])[m]? =
      some (nextId (nextId^[m] client.gfIdGenerator)) := by
    rw [getElem?_append_right hids.le, hids, Nat.sub_self]
    rfl
  have hlengths : (idsFrom client.gfIdGenerator m).length = (geofences.take m).length :=
    hids.trans hlength.symm
  rw [addGeofence, getElem?_stateAt_geofences hlt.le (Nat.le_refl m), hget, bind_eq_bind,
    bind_some, if_neg (by rw [hnew]; exact Bool.false_ne_true)]
  simp only [stateAt, hlast, bind_eq_bind, bind_some, htake, idsFrom_succ,
    Function.iterate_succ_apply', zip_append hlengths, zipWith_append hlengths,
    foldl_append, map_append]
  rw [hreplicate, hreplicate, drop_eq_getElem_cons hlt,
    set_append_cons _ _ (by rw [length_zipWith, hids, hlength, Nat.min_self]),
    set_append_cons _ _ (by rw [length_map, hlength]),
    set_append_cons _ _ (by rw [length_map, hlength])]
  rfl

section Leading

variable {n k : ℕ} (hn : n ≤ geofences.length)
  (hnew : ∀ i < n, ∀ geofence, geofences[i]? = some geofence →
    geofence.mGeofenceImpl.isSome = false)

include hn hnew

/-- The first ones are added, and the others are skipped. -/
theorem loop_eq (hadded : ∀ i < k, n ≤ i → ∀ geofence, geofences[i]? = some geofence →
    geofence.mGeofenceImpl.isSome = true) (hk : k ≤ geofences.length) :
    forUpTo addGeofence k (stateAt client geofences 0) =
      some (stateAt client geofences (min k n)) := by
  have hstate : stateAt client geofences 0 = stateAt client geofences (min 0 n) := by
    rw [Nat.zero_min]
  rw [hstate]
  refine Bounded.forUpTo_eq_some (fun i ↦ stateAt client geofences (min i n)) fun i hi ↦ ?_
  have hget := getElem?_eq_getElem (hi.trans_le hk)
  by_cases hin : i < n
  · rw [Nat.min_eq_left hin.le, Nat.min_eq_left hin]
    exact addGeofence_of_new hget (hnew i hin _ hget)
  · have hni : n ≤ i := Nat.le_of_not_lt hin
    rw [Nat.min_eq_right hni, Nat.min_eq_right (hni.trans (Nat.le_succ i))]
    exact addGeofence_of_added hn hni hget (hadded i hi hni _ hget)

/-- Nothing may be added after one that was skipped. -/
theorem added_of_loop
    (hnext : ∀ geofence, geofences[n]? = some geofence → geofence.mGeofenceImpl.isSome = true)
    (hk : k ≤ geofences.length)
    (hsome : (forUpTo addGeofence k (stateAt client geofences 0)).isSome = true) :
    ∀ i < k, n ≤ i → ∀ geofence, geofences[i]? = some geofence →
      geofence.mGeofenceImpl.isSome = true := by
  induction k with
  | zero => exact fun i hi ↦ absurd hi (Nat.not_lt_zero i)
  | succ k ih =>
    rw [forUpTo, isSome_bind] at hsome
    have hbefore : (forUpTo addGeofence k (stateAt client geofences 0)).isSome = true :=
      isSome_of_any hsome
    have hadded := ih (by omega) hbefore
    intro i hi hni geofence hget
    by_cases hik : i < k
    · exact hadded i hik hni geofence hget
    · obtain rfl : i = k := by omega
      rw [loop_eq hn hnew hadded (by omega), Nat.min_eq_right hni] at hsome
      rcases Nat.eq_or_lt_of_le hni with rfl | hlt
      · exact hnext geofence hget
      · by_contra hskip
        rw [any_some, addGeofence_of_skipped hn hlt hget (Bool.eq_false_iff.mpr hskip)]
          at hsome
        cases hsome

end Leading

/-! ## What is sent -/

theorem payloadAt_of_le (h : m ≤ i) : payloadAt (stateAt client geofences m) i = none := by
  have hnone : (stateAt client geofences m).client.mLastAddedClientIds[i]? = none :=
    getElem?_eq_none ((length_idsFrom _ m).le.trans h)
  rw [payloadAt, hnone]
  rfl

theorem payloadAt_of_lt (hm : m ≤ geofences.length) (h : i < m)
    (hget : geofences[i]? = some geofence) :
    payloadAt (stateAt client geofences m) i =
      some (payload (nextId^[i + 1] client.gfIdGenerator) geofence) := by
  have hid : (stateAt client geofences m).client.mLastAddedClientIds[i]? =
      some (nextId^[i + 1] client.gfIdGenerator) := by
    change (idsFrom client.gfIdGenerator m)[i]? = _
    rw [idsFrom, getElem?_map, getElem?_range h, map_some]
  have htake : (geofences.take m)[i]? = some geofence := by rw [getElem?_take_of_lt h, hget]
  have hlength : i < (geofences.take m).length := by
    rw [length_take, Nat.min_eq_left hm]
    exact h
  have hoption : (stateAt client geofences m).gfOptions[i]? = some (some geofence.option) := by
    rw [stateAt, getElem?_append_left (by rw [length_map]; exact hlength),
      getElem?_map, htake, map_some]
  have hinfo : (stateAt client geofences m).gfInfos[i]? = some (some geofence.info) := by
    rw [stateAt, getElem?_append_left (by rw [length_map]; exact hlength),
      getElem?_map, htake, map_some]
  rw [payloadAt, hid, hoption, hinfo]
  rfl

theorem payloads_eq (hm : m ≤ geofences.length) {count : ℕ} (h : count ≤ m) :
    forUpTo (fun i gfPayload ↦ (payloadAt (stateAt client geofences m) i).map
      fun payload ↦ gfPayload ++ [payload]) count [] =
        some (List.zipWith payload (idsFrom client.gfIdGenerator count) (geofences.take count)) := by
  refine Bounded.forUpTo_eq_some (fun count ↦
    List.zipWith payload (idsFrom client.gfIdGenerator count) (geofences.take count)) fun i hi ↦ ?_
  have hlt : i < geofences.length := by omega
  have hlengths : (idsFrom client.gfIdGenerator i).length = (geofences.take i).length := by
    rw [length_idsFrom, length_take, Nat.min_eq_left hlt.le]
  rw [payloadAt_of_lt hm (by omega) (getElem?_eq_getElem hlt), map_some, idsFrom_succ,
    take_succ_eq_append_getElem hlt, zipWith_append hlengths,
    Function.iterate_succ_apply']
  rfl

theorem le_of_payloads (hm : m ≤ geofences.length) {count : ℕ}
    (h : (forUpTo (fun i gfPayload ↦ (payloadAt (stateAt client geofences m) i).map
      fun payload ↦ gfPayload ++ [payload]) count []).isSome = true) : count ≤ m := by
  have hok : ∀ i (gfPayload : List (GeofencePayload ρ)),
      ((payloadAt (stateAt client geofences m) i).map
        fun payload ↦ gfPayload ++ [payload]).isSome = true ↔ i < m := by
    intro i gfPayload
    rw [Option.isSome_map]
    by_cases hi : i < m
    · rw [payloadAt_of_lt hm hi (getElem?_eq_getElem (hi.trans_le hm))]
      exact iff_of_true rfl hi
    · rw [payloadAt_of_le (Nat.le_of_not_lt hi)]
      exact iff_of_false Bool.false_ne_true hi
  have hall := (Bounded.isSome_forUpTo (fun i ↦ i < m) hok).mp h
  by_contra hlt
  exact Nat.lt_irrefl m (hall m (Nat.lt_of_not_le hlt))

end Loop

/-! ## The call -/

section Call

variable (mHalRegistered : Bool) (client : GeofenceClient ρ) {geofences : List (Geofence ρ)}

/-- How many payloads are sent for a vector of `count` geofences -/
def sentCount (count : ℕ) : ℕ :=
  if mHalRegistered then min MAX_GEOFENCE_ENTRY (UInt32.ofNat count).toNat else 0

variable {mHalRegistered client} {m n : ℕ}

theorem proc_of_le (hm : m ≤ geofences.length) {count : ℕ} (h : sentCount mHalRegistered count ≤ m) :
    ∃ sent, procAddGeofences mHalRegistered (UInt32.ofNat count) (stateAt client geofences m) =
        some sent ∧
      sent.getD [] =
        List.zipWith payload (idsFrom client.gfIdGenerator (sentCount mHalRegistered count))
          (geofences.take (sentCount mHalRegistered count)) := by
  cases mHalRegistered with
  | false => exact ⟨none, rfl, rfl⟩
  | true =>
    change min MAX_GEOFENCE_ENTRY (UInt32.ofNat count).toNat ≤ m at h
    rw [procAddGeofences, if_neg (by decide)]
    by_cases hpos : UInt32.ofNat count > 0
    · rw [if_pos hpos]
      dsimp only
      rw [payloads_eq hm h]
      exact ⟨_, rfl, rfl⟩
    · have hzero : UInt32.ofNat count = 0 := UInt32.not_lt.mp hpos |> UInt32.le_zero_iff.mp
      rw [if_neg hpos]
      refine ⟨none, rfl, ?_⟩
      have hsent : sentCount true count = 0 := by
        change min MAX_GEOFENCE_ENTRY (UInt32.ofNat count).toNat = 0
        rw [hzero]
        rfl
      rw [hsent]
      rfl

theorem le_of_proc (hm : m ≤ geofences.length) {count : ℕ}
    (h : (procAddGeofences mHalRegistered (UInt32.ofNat count)
      (stateAt client geofences m)).isSome = true) : sentCount mHalRegistered count ≤ m := by
  cases mHalRegistered with
  | false => exact Nat.zero_le m
  | true =>
    rw [procAddGeofences, if_neg (by decide)] at h
    change min MAX_GEOFENCE_ENTRY (UInt32.ofNat count).toNat ≤ m
    split at h
    · rw [bind_eq_bind, isSome_bind] at h
      exact le_of_payloads hm (isSome_of_any h)
    · next hpos =>
      have hzero : UInt32.ofNat count = 0 := UInt32.not_lt.mp hpos |> UInt32.le_zero_iff.mp
      rw [hzero]
      exact Nat.zero_le m

section Leading

variable (hn : n ≤ geofences.length)
  (hnew : ∀ i < n, ∀ geofence, geofences[i]? = some geofence →
    geofence.mGeofenceImpl.isSome = false)

include hn hnew

theorem addGeofences_of_le
    (hadded : ∀ i < geofences.length, n ≤ i → ∀ geofence, geofences[i]? = some geofence →
      geofence.mGeofenceImpl.isSome = true)
    (hsent : sentCount mHalRegistered geofences.length ≤ n) :
    ∃ sent, addGeofences mHalRegistered geofences client =
        some ⟨(stateAt client geofences n).client, (stateAt client geofences n).geofences, sent⟩ ∧
      sent.getD [] = List.zipWith payload
        (idsFrom client.gfIdGenerator (sentCount mHalRegistered geofences.length))
        (geofences.take (sentCount mHalRegistered geofences.length)) := by
  rw [addGeofences]
  by_cases hcount : geofences.length > 0
  · obtain ⟨sent, hproc, hvalue⟩ :
        ∃ sent, procAddGeofences mHalRegistered (UInt32.ofNat geofences.length)
          (stateAt client geofences n) = some sent ∧ _ := proc_of_le hn hsent
    have hloop : forUpTo addGeofence geofences.length (stateAt client geofences 0) =
      some (stateAt client geofences (min geofences.length n)) :=
        loop_eq hn hnew hadded (Nat.le_refl _)
    rw [Nat.min_eq_right hn, stateAt_zero] at hloop
    refine ⟨sent, ?_, hvalue⟩
    rw [if_pos hcount, hloop, bind_eq_bind, bind_some, hproc]
    rfl
  · -- an empty vector: nothing is sent
    rw [if_neg hcount]
    obtain rfl := eq_nil_of_length_eq_zero (Nat.eq_zero_of_not_pos hcount)
    obtain rfl := Nat.le_zero.mp hn
    refine ⟨none, rfl, ?_⟩
    rw [Nat.le_zero.mp hsent]
    rfl

theorem le_of_addGeofences
    (hnext : ∀ geofence, geofences[n]? = some geofence → geofence.mGeofenceImpl.isSome = true)
    (h : (addGeofences mHalRegistered geofences client).isSome = true) :
    (∀ i < geofences.length, n ≤ i → ∀ geofence, geofences[i]? = some geofence →
      geofence.mGeofenceImpl.isSome = true) ∧ sentCount mHalRegistered geofences.length ≤ n := by
  rw [addGeofences] at h
  by_cases hcount : geofences.length > 0
  · rw [if_pos hcount, ← stateAt_zero, bind_eq_bind, isSome_bind] at h
    have hadded := added_of_loop hn hnew hnext (Nat.le_refl _) (isSome_of_any h)
    rw [loop_eq hn hnew hadded (Nat.le_refl _), Nat.min_eq_right hn, any_some,
      bind_eq_bind, isSome_bind] at h
    exact ⟨hadded, le_of_proc hn (isSome_of_any h)⟩
  · rw [Nat.eq_zero_of_not_pos hcount]
    refine ⟨fun i hi ↦ absurd hi (Nat.not_lt_zero i), ?_⟩
    cases mHalRegistered <;> exact Nat.zero_le n

end Leading

end Call

/-! ## Pairing -/

section Pairing

variable {news olds : List (Geofence ρ)}

theorem newOnes_append (hnews : ∀ geofence ∈ news, geofence.mGeofenceImpl.isSome = false)
    (holds : ∀ geofence ∈ olds, geofence.mGeofenceImpl.isSome = true) :
    newOnes (news ++ olds) = news := by
  have hall : news.filter (fun geofence ↦ geofence.mGeofenceImpl.isNone) = news :=
    filter_eq_self.mpr fun geofence hmem ↦ by
      rw [← not_isSome, hnews geofence hmem]
      rfl
  have hnone : olds.filter (fun geofence ↦ geofence.mGeofenceImpl.isNone) = [] :=
    filter_eq_nil_iff.mpr fun geofence hmem ↦ by
      rw [← not_isSome, holds geofence hmem]
      exact Bool.false_ne_true
  rw [newOnes, filter_append, hall, hnone, List.append_nil]

theorem bindAll_olds (holds : ∀ geofence ∈ olds, geofence.mGeofenceImpl.isSome = true)
    (ids : List UInt32) : bindAll olds ids = olds := by
  induction olds with
  | nil => rfl
  | cons geofence olds ih =>
    obtain ⟨id, hid⟩ := Option.isSome_iff_exists.mp (holds geofence mem_cons_self)
    unfold bindAll
    rw [hid]
    exact congrArg (geofence :: ·) (ih fun g hg ↦ holds g (mem_cons_of_mem _ hg))

theorem bindAll_append (hnews : ∀ geofence ∈ news, geofence.mGeofenceImpl.isSome = false)
    (holds : ∀ geofence ∈ olds, geofence.mGeofenceImpl.isSome = true) {ids : List UInt32}
    (hlength : ids.length = news.length) :
    bindAll (news ++ olds) ids =
      List.zipWith (fun id geofence ↦ geofence.bindGeofence id) ids news ++ olds := by
  induction news generalizing ids with
  | nil =>
    obtain rfl := eq_nil_of_length_eq_zero hlength
    exact bindAll_olds holds []
  | cons geofence news ih =>
    cases ids with
    | nil => cases hlength
    | cons id ids =>
      have hnone : geofence.mGeofenceImpl = none :=
        Option.not_isSome_iff_eq_none.mp (Bool.eq_false_iff.mp (hnews geofence mem_cons_self))
      rw [cons_append]
      unfold bindAll
      rw [hnone]
      exact congrArg (geofence.bindGeofence id :: ·)
        (ih (fun g hg ↦ hnews g (mem_cons_of_mem _ hg)) (Nat.succ.inj hlength))

theorem addGeofenceMap_apply (id : UInt32) (geofence : Geofence ρ)
    (mGeofenceMap : UInt32 → Option (Geofence ρ)) (id' : UInt32) :
    addGeofenceMap id geofence mGeofenceMap id' =
      (mGeofenceMap id').or (if id' = id then some geofence else none) := by
  rw [addGeofenceMap]
  by_cases heq : id' = id
  · subst heq
    cases hfind : mGeofenceMap id' <;> simp [hfind]
  · rw [if_neg heq, or_none]
    split
    · rfl
    · rw [Function.update_of_ne heq]

/-- What is in the map stays there, and the first geofence with an id is bound to it. -/
theorem foldl_addGeofenceMap (bindings : List (UInt32 × Geofence ρ))
    (mGeofenceMap : UInt32 → Option (Geofence ρ)) (id : UInt32) :
    bindings.foldl (fun map p ↦ addGeofenceMap p.1 (p.2.bindGeofence p.1) map) mGeofenceMap id =
      (mGeofenceMap id).or
        ((bindings.lookup id).map fun geofence ↦ geofence.bindGeofence id) := by
  induction bindings generalizing mGeofenceMap with
  | nil => exact (or_none).symm
  | cons p bindings ih =>
    rw [foldl_cons, ih, addGeofenceMap_apply, Option.or_assoc, lookup_cons]
    by_cases heq : id = p.1
    · subst heq
      simp
    · rw [if_neg heq, Option.none_or, beq_eq_false_iff_ne.mpr heq]

theorem map_gfClientId {ids : List UInt32} {geofences : List (Geofence ρ)}
    (h : ids.length ≤ geofences.length) :
    (List.zipWith payload ids geofences).map GeofencePayload.gfClientId = ids := by
  induction ids generalizing geofences with
  | nil => rfl
  | cons id ids ih =>
    cases geofences with
    | nil => cases h
    | cons geofence geofences =>
      exact congrArg (id :: ·) (ih (Nat.le_of_succ_le_succ h))

/-- The geofences up to the first one that was added -/
theorem exists_leading (geofences : List (Geofence ρ)) :
    ∃ news rest, geofences = news ++ rest ∧
      (∀ geofence ∈ news, geofence.mGeofenceImpl.isSome = false) ∧
      ∀ geofence, rest.head? = some geofence → geofence.mGeofenceImpl.isSome = true := by
  induction geofences with
  | nil => exact ⟨[], [], rfl, fun _ hmem ↦ absurd hmem not_mem_nil, fun _ h ↦ nomatch h⟩
  | cons geofence geofences ih =>
    cases hadded : geofence.mGeofenceImpl.isSome with
    | true =>
      refine ⟨[], geofence :: geofences, rfl, fun _ hmem ↦ absurd hmem not_mem_nil, ?_⟩
      rintro _ ⟨⟩
      exact hadded
    | false =>
      obtain ⟨news, rest, rfl, hnews, hrest⟩ := ih
      refine ⟨geofence :: news, rest, rfl, fun g hg ↦ ?_, hrest⟩
      rcases mem_cons.mp hg with rfl | hg
      · exact hadded
      · exact hnews g hg

/-- A call pairs the geofences that were not added if and only if none of them comes after one that
was, they are as many as are sent, and the ids that come next are free. -/
theorem paired_iff (mHalRegistered : Bool) (geofences : List (Geofence ρ))
    (client : GeofenceClient ρ) :
    (∃ r ids, addGeofences mHalRegistered geofences client = some r ∧
        Paired geofences client ids r) ↔
      ∃ news olds, geofences = news ++ olds ∧
        (∀ geofence ∈ news, geofence.mGeofenceImpl.isSome = false) ∧
        (∀ geofence ∈ olds, geofence.mGeofenceImpl.isSome = true) ∧
        news.length = sentCount mHalRegistered geofences.length ∧
        ∀ id ∈ idsFrom client.gfIdGenerator news.length, client.mGeofenceMap id = none := by
  constructor
  · rintro ⟨r, ids, hcall, hpaired⟩
    obtain ⟨news, olds, rfl, hnews, hnext⟩ := exists_leading geofences
    have hn : news.length ≤ (news ++ olds).length := by
      rw [length_append]
      exact Nat.le_add_right _ _
    have hnew : ∀ i < news.length, ∀ geofence, (news ++ olds)[i]? = some geofence →
        geofence.mGeofenceImpl.isSome = false := fun i hi geofence hget ↦ by
      rw [getElem?_append_left hi] at hget
      exact hnews geofence (mem_of_getElem? hget)
    obtain ⟨hadded, hsent⟩ := le_of_addGeofences hn hnew (fun geofence hget ↦ by
      rw [getElem?_append_right (Nat.le_refl _), Nat.sub_self, ← head?_eq_getElem?]
        at hget
      exact hnext geofence hget) (by rw [hcall]; rfl)
    have holds : ∀ geofence ∈ olds, geofence.mGeofenceImpl.isSome = true := by
      intro geofence hmem
      obtain ⟨j, hj⟩ := mem_iff_getElem?.mp hmem
      have hget : (news ++ olds)[news.length + j]? = some geofence := by
        rw [getElem?_append_right (Nat.le_add_right _ _), Nat.add_sub_cancel_left, hj]
      obtain ⟨hlt, -⟩ := List.getElem?_eq_some_iff.mp hget
      exact hadded _ hlt (Nat.le_add_right _ _) geofence hget
    obtain ⟨sent, hcall', hvalue⟩ := addGeofences_of_le hn hnew hadded hsent
    obtain rfl := Option.some_inj.mp (hcall.symm.trans hcall')
    have hone := newOnes_append hnews holds
    have heq := hpaired.sent.symm.trans hvalue
    have hlength := hpaired.length
    rw [hone] at heq hlength
    have hcount : news.length = sentCount mHalRegistered (news ++ olds).length := by
      have hlengths := congrArg List.length heq
      rw [length_zipWith, length_zipWith, hlength, length_idsFrom, length_take,
        Nat.min_self, Nat.min_eq_left (hsent.trans hn), Nat.min_self] at hlengths
      exact hlengths
    refine ⟨news, olds, rfl, hnews, holds, hcount, ?_⟩
    have hids := congrArg (List.map GeofencePayload.gfClientId) heq
    rw [map_gfClientId hlength.le, ← hcount, take_left,
      map_gfClientId (length_idsFrom _ _).le] at hids
    rw [← hids]
    exact hpaired.fresh
  · rintro ⟨news, olds, rfl, hnews, holds, hlength, hfree⟩
    have htake : (news ++ olds).take news.length = news := take_left
    have hn : news.length ≤ (news ++ olds).length := by
      rw [length_append]
      exact Nat.le_add_right _ _
    have hids := length_idsFrom client.gfIdGenerator news.length
    obtain ⟨sent, hcall, hsent⟩ : ∃ sent, addGeofences mHalRegistered (news ++ olds) client =
        some ⟨_, _, sent⟩ ∧ _ :=
      addGeofences_of_le hn (fun i hi geofence hget ↦ by
          rw [getElem?_append_left hi] at hget
          exact hnews geofence (mem_of_getElem? hget)) (fun i _ hi geofence hget ↦ by
          rw [getElem?_append_right hi] at hget
          exact holds geofence (mem_of_getElem? hget)) hlength.ge
    refine ⟨_, idsFrom client.gfIdGenerator news.length, hcall, ?_⟩
    rw [← hlength, htake] at hsent
    exact {
      nodup := nodup_idsFrom client.gfIdGenerator (n := news.length) (by
        rw [hlength]
        cases mHalRegistered
        · exact Nat.zero_le _
        · exact (Nat.min_le_left _ _).trans (by decide))
      fresh := hfree
      length := by rw [hids, newOnes_append hnews holds]
      sent := by rw [hsent, newOnes_append hnews holds]
      bound := by
        rw [bindAll_append hnews holds hids, stateAt, htake, drop_left]
      map := fun id ↦ by
        rw [newOnes_append hnews holds, stateAt, htake]
        dsimp only
        rw [foldl_addGeofenceMap]
        cases hlookup : ((idsFrom client.gfIdGenerator news.length).zip news).lookup id with
        | none => simp
        | some geofence =>
          obtain ⟨l, l', hzip, -⟩ := lookup_eq_some_iff.mp hlookup
          have hmem : (id, geofence) ∈ (idsFrom client.gfIdGenerator news.length).zip news := by
            rw [hzip]
            exact mem_append_right _ mem_cons_self
          rw [hfree id (of_mem_zip hmem).1]
          rfl }

/-- A geofence that was added, and one that was not -/
def addedThenNew : List (Geofence ℕ) := [⟨some 1, 10, 20, 30, 3, 0, 0⟩, ⟨none, 40, 50, 60, 3, 0, 0⟩]

theorem not_paired :
    ¬∀ (geofences : List (Geofence ℕ)) (client : GeofenceClient ℕ),
      (∀ id ∈ idsFrom client.gfIdGenerator geofences.length, client.mGeofenceMap id = none) →
        ∃ r ids, addGeofences true geofences client = some r ∧ Paired geofences client ids r := by
  intro hlaw
  let client : GeofenceClient ℕ := ⟨1, [], fun id ↦ if id = 1 then addedThenNew.head? else none⟩
  have hfree : ∀ id ∈ idsFrom client.gfIdGenerator addedThenNew.length,
      client.mGeofenceMap id = none := by
    intro id hmem
    refine if_neg ?_
    rintro rfl
    have hnot : (1 : UInt32) ∉ idsFrom 1 2 := by decide
    exact hnot hmem
  obtain ⟨r, ids, hcall, -⟩ := hlaw addedThenNew client hfree
  have hnone : (addGeofences true addedThenNew client).isSome = false := by decide +kernel
  rw [hcall] at hnone
  cases hnone

end Pairing

end MataDevice.ClientApi
