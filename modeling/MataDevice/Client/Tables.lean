import MataDevice.Lib.OrderedMap

/-!
# The tables of a client

`LocationAPIClientBase` and `LocationAPIControlClient` keep the requests that wait for an answer in
queues, and translate between the ids of the framework and the sessions of `LocationAPI` with a
dictionary that is looked up in both directions.

The dictionary is three maps, which `set`, `rmById` and `rmBySession` change one after the other.
They stay inverse to each other as long as `set` is called for an id and a session that are either
both new or bound to each other, and as long as only what is known is removed.
-/

namespace MataDevice.Client

open OrderedMap (find?_insert find?_erase)

/-! ## The queues of requests -/

/-- `RequestQueue`, where requests of a kind wait. The pointer to the ids of a collective request is
the address of the array. -/
structure RequestQueue (ρ : Type) where
  mSession : ℕ
  mSessionArrayPtr : Option ℕ
  mQueue : List ρ
  deriving DecidableEq, Repr

namespace RequestQueue

variable {ρ : Type}

/-- A queue that has been made by its constructor. -/
def initial : RequestQueue ρ := ⟨0, none, []⟩

section Operations

variable (q : RequestQueue ρ)

def setSession (session : ℕ) : RequestQueue ρ := { q with mSession := session }

/-- `reset(uint32_t)` -/
def reset (session : ℕ) : RequestQueue ρ := { q with mQueue := [], mSession := session }

/-- `reset(uint32_t*)` -/
def resetArray (sessionArrayPtr : Option ℕ) : RequestQueue ρ :=
  { q.reset 0 with mSessionArrayPtr := sessionArrayPtr }

def push (request : ρ) : RequestQueue ρ := { q with mQueue := q.mQueue ++ [request] }

def pop : Option ρ × RequestQueue ρ :=
  match q.mQueue with
  | [] => (none, q)
  | request :: queue => (some request, { q with mQueue := queue })

end Operations

end RequestQueue

/-! ## The dictionary -/

/-- `BiDict`: ids to sessions, sessions to ids, and sessions to what else is known of them. -/
structure BiDict (τ : Type) where
  mForwardMap : OrderedMap ℕ ℕ
  mBackwardMap : OrderedMap ℕ ℕ
  mExtMap : OrderedMap ℕ τ

namespace BiDict

variable {τ : Type}

def empty : BiDict τ := ⟨.empty, .empty, .empty⟩

section Operations

variable (d : BiDict τ)

def hasId (id : ℕ) : Bool := (d.mForwardMap.find? id).isSome

def hasSession (session : ℕ) : Bool := (d.mBackwardMap.find? session).isSome

def set (id session : ℕ) (ext : τ) : BiDict τ where
  mForwardMap := d.mForwardMap.insert id session
  mBackwardMap := d.mBackwardMap.insert session id
  mExtMap := d.mExtMap.insert session ext

/-- The session of an id that is not known is read as zero. -/
def rmById (id : ℕ) : BiDict τ where
  mForwardMap := d.mForwardMap.erase id
  mBackwardMap := d.mBackwardMap.erase ((d.mForwardMap.find? id).getD 0)
  mExtMap := d.mExtMap.erase ((d.mForwardMap.find? id).getD 0)

/-- The id of a session that is not known is read as zero. -/
def rmBySession (session : ℕ) : BiDict τ where
  mForwardMap := d.mForwardMap.erase ((d.mBackwardMap.find? session).getD 0)
  mBackwardMap := d.mBackwardMap.erase session
  mExtMap := d.mExtMap.erase session

def getId (session : ℕ) : ℕ := (d.mBackwardMap.find? session).getD 0

def getSession (id : ℕ) : ℕ := (d.mForwardMap.find? id).getD 0

/-- `getExtBySession`, with `zero` for what `memset` leaves. -/
def getExtBySession (zero : τ) (session : ℕ) : τ := (d.mExtMap.find? session).getD zero

/-- `getExtById`; reading the session of an id that is not known puts the id into the map. -/
def getExtById (zero : τ) (id : ℕ) : τ × BiDict τ :=
  match d.mForwardMap.find? id with
  | none => (zero, { d with mForwardMap := d.mForwardMap.insert id 0 })
  | some session =>
    if session > 0 then ((d.mExtMap.find? session).getD zero, d) else (zero, d)

def getAllSessions : List ℕ := d.mBackwardMap.entries.map Prod.fst

end Operations

@[simp] theorem hasSession_set (d : BiDict τ) (id session session' : ℕ) (ext : τ) :
    (d.set id session ext).hasSession session' =
      (decide (session' = session) || d.hasSession session') := by
  simp only [hasSession, set, find?_insert]
  split_ifs with h <;> simp [h]

@[simp] theorem hasSession_rmBySession (d : BiDict τ) (session session' : ℕ) :
    (d.rmBySession session).hasSession session' =
      (decide (session' ≠ session) && d.hasSession session') := by
  simp only [hasSession, rmBySession, find?_erase]
  split_ifs with h <;> simp [h]

/-- The maps from ids to sessions and back are inverse to each other, and what else is known is
known of the same sessions. -/
structure Bijective (d : BiDict τ) : Prop where
  inverse : ∀ id session,
    d.mBackwardMap.find? session = some id ↔ d.mForwardMap.find? id = some session
  ext : ∀ session, (d.mExtMap.find? session).isSome = d.hasSession session

namespace Bijective

variable {d : BiDict τ} {id session : ℕ}

theorem empty : (empty : BiDict τ).Bijective := by
  constructor
  · simp [BiDict.empty]
  · simp [BiDict.empty, hasSession]

variable (h : d.Bijective)
include h

/-- The session of a known id is known. -/
theorem hasSession_of_find? (hid : d.mForwardMap.find? id = some session) :
    d.hasSession session = true := by
  rw [hasSession, (h.inverse id session).mpr hid]
  rfl

/-- An id and a session that are not known yet are bound. -/
theorem set_of_new (hid : d.mForwardMap.find? id = none)
    (hsession : d.mBackwardMap.find? session = none) (ext : τ) : (d.set id session ext).Bijective := by
  constructor
  · intro id' session'
    simp only [set, find?_insert]
    by_cases hs : session' = session
    · by_cases hi : id' = id
      · simp [hs, hi]
      · have hnot : d.mForwardMap.find? id' ≠ some session :=
          fun hbound ↦ by simp [(h.inverse _ _).mpr hbound] at hsession
        simp [hs, hi, hnot, Ne.symm hi]
    · by_cases hi : id' = id
      · have hnot : d.mBackwardMap.find? session' ≠ some id :=
          fun hbound ↦ by simp [(h.inverse _ _).mp hbound] at hid
        simp [hs, hi, hnot, Ne.symm hs]
      · simp only [hs, hi, if_false]
        exact h.inverse id' session'
  · intro session'
    have hext := h.ext session'
    simp only [set, hasSession, find?_insert] at hext ⊢
    split_ifs
    · rfl
    · exact hext

/-- What is known of a session is replaced. -/
theorem set_of_bound (hbound : d.mForwardMap.find? id = some session) (ext : τ) :
    (d.set id session ext).Bijective := by
  have hback := (h.inverse id session).mpr hbound
  have hforward : (d.mForwardMap.insert id session).find? = d.mForwardMap.find? := by
    funext id'
    rw [find?_insert]
    split_ifs with hi
    · rw [hi, hbound]
    · rfl
  have hbackward : (d.mBackwardMap.insert session id).find? = d.mBackwardMap.find? := by
    funext session'
    rw [find?_insert]
    split_ifs with hs
    · rw [hs, hback]
    · rfl
  constructor
  · intro id' session'
    simp only [set, hforward, hbackward]
    exact h.inverse id' session'
  · intro session'
    have hext := h.ext session'
    simp only [set, hasSession, find?_insert] at hext ⊢
    split_ifs
    · rfl
    · exact hext

theorem rmBySession (hsession : d.mBackwardMap.find? session = some id) :
    (d.rmBySession session).Bijective := by
  have hbound := (h.inverse id session).mp hsession
  constructor
  · intro id' session'
    simp only [BiDict.rmBySession, hsession, Option.getD_some, find?_erase]
    have hinv := h.inverse id' session'
    by_cases hs : session' = session
    · by_cases hi : id' = id
      · simp [hs, hi]
      · have hnot : d.mForwardMap.find? id' ≠ some session := fun hbound' ↦ by
          rw [(h.inverse _ _).mpr hbound'] at hsession
          exact hi (Option.some.inj hsession)
        simp [hs, hi, hnot]
    · by_cases hi : id' = id
      · have hnot : d.mBackwardMap.find? session' ≠ some id := fun hback ↦ by
          rw [(h.inverse _ _).mp hback] at hbound
          exact hs (Option.some.inj hbound)
        simp [hs, hi, hnot]
      · simpa [hs, hi] using hinv
  · intro session'
    have hext := h.ext session'
    simp only [BiDict.rmBySession, hasSession, find?_erase] at hext ⊢
    split_ifs
    · rfl
    · exact hext

/-- Removing an id removes its session. -/
theorem rmById_eq (hid : d.mForwardMap.find? id = some session) :
    d.rmById id = d.rmBySession session := by
  have hback := (h.inverse id session).mpr hid
  simp only [rmById, BiDict.rmBySession, hid, hback, Option.getD_some]

/-- Every known id is found again by its session. -/
theorem getId_getSession (hid : d.hasId id = true) :
    d.getId (d.getSession id) = id := by
  obtain ⟨session, hsession⟩ := Option.isSome_iff_exists.mp hid
  rw [getSession, hsession, Option.getD_some, getId, (h.inverse id session).mpr hsession,
    Option.getD_some]

end Bijective

end BiDict

end MataDevice.Client
