import MataDevice.Client.System

/-!
# The options of modified geofences

`locAPIModifyGeofences` is called with an array of ids and an array of options, of which equal
positions belong together. It collects the sessions of the ids that are known, so that the array of
sessions has no gaps, and hands it to `LocationAPI` with the array of options as it was: behind an
unknown id every session is paired with an option of another geofence. The masks are stored within
the loop, where the positions are still the same.
-/

namespace MataDevice.Client

open List

section Lists

variable {α β σ : Type} {p : α × β → Bool} {f : α × β → σ}

/-- The first components of the selected entries meet the second components of all entries in the
right places exactly when each entry's second component is where the count of the selected ones
before it points to. -/
theorem zip_map_filter_eq_iff (l : List (α × β)) (options : List β)
    (hlength : (l.filter p).length ≤ options.length) :
    ((l.filter p).map f).zip options = (l.filter p).map (fun g ↦ (f g, g.2)) ↔
      ∀ i g, l[i]? = some g → p g = true → options[(l.take i).countP p]? = some g.2 := by
  induction l generalizing options with
  | nil => simp
  | cons g l ih =>
    have hsucc : (∀ i g', (g :: l)[i]? = some g' → p g' = true →
        options[((g :: l).take i).countP p]? = some g'.2) ↔
        (p g = true → options[0]? = some g.2) ∧ ∀ i g', l[i]? = some g' → p g' = true →
          options[(l.take i).countP p + if p g then 1 else 0]? = some g'.2 := by
      constructor
      · intro h
        refine ⟨fun hg ↦ h 0 g rfl hg, fun i g' hi hg' ↦ ?_⟩
        have := h (i + 1) g' hi hg'
        rwa [take_succ_cons, countP_cons] at this
      · rintro ⟨hzero, hsucc⟩ i g' hi hg'
        cases i with
        | zero =>
          obtain rfl := Option.some_inj.mp hi
          exact hzero hg'
        | succ i =>
          rw [take_succ_cons, countP_cons]
          exact hsucc i g' hi hg'
    rw [hsucc]
    cases hg : p g with
    | false =>
      rw [filter_cons_of_neg (by simp [hg])] at hlength ⊢
      simp only [Bool.false_eq_true, false_imp_iff, true_and, if_false, Nat.add_zero]
      exact ih options hlength
    | true =>
      rw [filter_cons_of_pos hg] at hlength ⊢
      cases options with
      | nil => simp at hlength
      | cons option options =>
        simp only [map_cons, zip_cons_cons, List.cons.injEq, Prod.mk.injEq, true_and,
          if_true, getElem?_cons_succ, getElem?_cons_zero, Option.some_inj, true_imp_iff]
        exact and_congr_right fun _ ↦ ih options (Nat.le_of_succ_le_succ hlength)

end Lists

structure GeofenceOption where
  size : ℕ
  breachTypeMask : ℕ
  responsiveness : ℕ
  dwellTime : ℕ
  deriving DecidableEq, Repr

namespace LocationAPIClientBase

/-! ## The loop -/

section Loop

variable {α β : Type} {f : BiDict ℕ → ℕ → ℕ → α → BiDict ℕ} {d : BiDict ℕ}

theorem forKnown_map (g : β → α) (geofences : List (ℕ × β)) :
    forKnown f (geofences.map fun e ↦ (e.1, g e.2)) d =
      forKnown (fun d id session x ↦ f d id session (g x)) geofences d := by
  induction geofences generalizing d with
  | nil => rfl
  | cons e geofences ih =>
    obtain ⟨id, x⟩ := e
    simp only [map_cons, forKnown, ih]

theorem getSession_set_getSession (id id' ext : ℕ) :
    (d.set id (d.getSession id) ext).getSession id' = d.getSession id' := by
  rw [BiDict.getSession, BiDict.set, OrderedMap.find?_insert]
  split_ifs with h
  · rw [h]
    rfl
  · rfl

/-- What the loop does when every known id is set again: the sessions, and no other translation. -/
theorem fst_forKnown_set (mask : α → ℕ) (geofences : List (ℕ × α)) :
    (forKnown (fun d id session x ↦ d.set id session (mask x)) geofences d).1 =
      (geofences.filter fun g ↦ 0 < d.getSession g.1).map fun g ↦ d.getSession g.1 := by
  induction geofences generalizing d with
  | nil => rfl
  | cons g geofences ih =>
    obtain ⟨id, x⟩ := g
    rw [forKnown]
    by_cases hpos : d.getSession id > 0
    · simp only [if_pos hpos, ih, getSession_set_getSession]
      rw [filter_cons_of_pos (by simpa using hpos), map_cons]
    · simp only [if_neg hpos, ih]
      rw [filter_cons_of_neg (by simpa using hpos)]

/-- A session of none of the ids keeps what is known of it. -/
theorem find?_mExtMap_forKnown_set_of_ne (mask : α → ℕ) {geofences : List (ℕ × α)} {session : ℕ}
    (h : ∀ g ∈ geofences, d.getSession g.1 ≠ session) :
    (forKnown (fun d id session x ↦ d.set id session (mask x)) geofences d).2.mExtMap.find? session =
      d.mExtMap.find? session := by
  induction geofences generalizing d with
  | nil => rfl
  | cons g geofences ih =>
    obtain ⟨id, x⟩ := g
    rw [forall_mem_cons] at h
    rw [forKnown]
    by_cases hpos : d.getSession id > 0
    · simp only [if_pos hpos]
      rw [ih fun g hg ↦ by rw [getSession_set_getSession]; exact h.2 g hg, BiDict.set,
        OrderedMap.find?_insert, if_neg (Ne.symm h.1)]
    · simp only [if_neg hpos]
      exact ih h.2

/-- Of the ids of a session the last one's mask is stored. -/
theorem find?_mExtMap_forKnown_set (mask : α → ℕ) {before after : List (ℕ × α)} {g : ℕ × α}
    (hknown : 0 < d.getSession g.1)
    (hlast : ∀ g' ∈ after, d.getSession g'.1 ≠ d.getSession g.1) :
    (forKnown (fun d id session x ↦ d.set id session (mask x)) (before ++ g :: after) d).2.mExtMap.find?
      (d.getSession g.1) = some (mask g.2) := by
  induction before generalizing d with
  | nil =>
    rw [nil_append, forKnown]
    simp only [if_pos hknown]
    rw [find?_mExtMap_forKnown_set_of_ne mask fun g' hg' ↦ by
      rw [getSession_set_getSession]; exact hlast g' hg', BiDict.set, OrderedMap.find?_insert,
      if_pos rfl]
  | cons e before ih =>
    rw [cons_append, forKnown]
    by_cases hpos : d.getSession e.1 > 0
    · have := ih (d := d.set e.1 (d.getSession e.1) (mask e.2))
        (by rwa [getSession_set_getSession])
        (fun g' hg' ↦ by simpa only [getSession_set_getSession] using hlast g' hg')
      simp only [if_pos hpos]
      rwa [getSession_set_getSession] at this
    · simp only [if_neg hpos]
      exact ih hknown hlast

end Loop

/-! ## The call -/

variable (c : LocationAPIClientBase)

/-- `locAPIModifyGeofences` with the whole options: the dictionary, and the arrays with which
`LocationAPI` is called, of which it reads as many entries as there are sessions. -/
def modifyGeofences (geofences : List (ℕ × GeofenceOption)) :
    BiDict ℕ × Option (List ℕ × List GeofenceOption) :=
  if c.mLocationAPI && (c.mRequestQueues .geofence).mSession = geofenceSessionId then
    let (sessions, dict) := forKnown
      (fun d id session (option : GeofenceOption) ↦ d.set id session option.breachTypeMask) geofences
      c.mGeofenceBiDict
    (dict, if sessions = [] then none else some (sessions, geofences.map Prod.snd))
  else (c.mGeofenceBiDict, none)

/-- The masks are the part of the options that the client itself reads. -/
theorem locAPIModifyGeofences_eq (geofences : List (ℕ × GeofenceOption)) :
    (c.locAPIModifyGeofences (geofences.map fun g ↦ (g.1, g.2.breachTypeMask))).1.mGeofenceBiDict =
      (c.modifyGeofences geofences).1 ∧
    (c.locAPIModifyGeofences (geofences.map fun g ↦ (g.1, g.2.breachTypeMask))).2 =
      (c.modifyGeofences geofences).2.toList.map fun call ↦
        .api (.modifyGeofences call.1 (call.2.map GeofenceOption.breachTypeMask)) := by
  simp only [locAPIModifyGeofences, callGeofences, modifyGeofences, forKnown_map]
  split_ifs
  · exact ⟨rfl, rfl⟩
  · refine ⟨rfl, ?_⟩
    simp
  · exact ⟨rfl, rfl⟩

/-- The client takes calls for geofences: there is a `LocationAPI`, and geofences have been added
before. -/
def TakesGeofences : Prop :=
  c.mLocationAPI = true ∧ (c.mRequestQueues .geofence).mSession = geofenceSessionId

/-- An id with a session -/
def Knows (id : ℕ) : Prop := 0 < c.mGeofenceBiDict.getSession id

instance : DecidablePred c.Knows := fun id ↦ inferInstanceAs (Decidable (_ < _))

/-- What the call is to do: `LocationAPI` gets the sessions of the known ids, in their order, with the
options of the same ids, and of the ids of a session the last one's mask is stored. -/
structure Pairs (geofences : List (ℕ × GeofenceOption)) : Prop where
  call : ((c.modifyGeofences geofences).2.elim [] fun call ↦ call.1.zip call.2) =
    (geofences.filter fun g ↦ c.Knows g.1).map fun g ↦ (c.mGeofenceBiDict.getSession g.1, g.2)
  masks : ∀ before g after, geofences = before ++ g :: after → c.Knows g.1 →
    (∀ g' ∈ after, c.mGeofenceBiDict.getSession g'.1 ≠ c.mGeofenceBiDict.getSession g.1) →
    (c.modifyGeofences geofences).1.mExtMap.find? (c.mGeofenceBiDict.getSession g.1) =
      some g.2.breachTypeMask

/-- Each known id's option is also found where the known ids before it are counted to. -/
def Aligned (geofences : List (ℕ × GeofenceOption)) : Prop :=
  ∀ i g, geofences[i]? = some g → c.Knows g.1 →
    (geofences.map Prod.snd)[(geofences.take i).countP fun g ↦ c.Knows g.1]? = some g.2

variable {c}

/-- The sessions and the options belong together exactly when the options of the known ids are where
they would be without the unknown ids. -/
theorem pairs_iff (hopen : c.TakesGeofences) (geofences : List (ℕ × GeofenceOption)) :
    c.Pairs geofences ↔ c.Aligned geofences := by
  have hcond : (c.mLocationAPI &&
      decide ((c.mRequestQueues .geofence).mSession = geofenceSessionId)) = true := by
    rw [hopen.1, hopen.2]
    rfl
  have hsessions := fst_forKnown_set (d := c.mGeofenceBiDict) GeofenceOption.breachTypeMask geofences
  have hcall : ((c.modifyGeofences geofences).2.elim [] fun call ↦ call.1.zip call.2) =
      ((geofences.filter fun g ↦ c.Knows g.1).map fun g ↦ c.mGeofenceBiDict.getSession g.1).zip
        (geofences.map Prod.snd) := by
    rw [modifyGeofences, if_pos hcond]
    dsimp only
    rw [hsessions]
    split_ifs with hnil
    · rw [show ((geofences.filter fun g ↦ decide (c.Knows g.1)).map fun g ↦
        c.mGeofenceBiDict.getSession g.1) = [] from hnil]
      rfl
    · rfl
  have hmasks : ∀ before g after, geofences = before ++ g :: after → c.Knows g.1 →
      (∀ g' ∈ after, c.mGeofenceBiDict.getSession g'.1 ≠ c.mGeofenceBiDict.getSession g.1) →
      (c.modifyGeofences geofences).1.mExtMap.find? (c.mGeofenceBiDict.getSession g.1) =
        some g.2.breachTypeMask := by
    rintro before g after rfl hknown hlast
    rw [modifyGeofences, if_pos hcond]
    exact find?_mExtMap_forKnown_set GeofenceOption.breachTypeMask hknown hlast
  have halign := zip_map_filter_eq_iff (p := fun g ↦ decide (c.Knows g.1))
    (f := fun g : ℕ × GeofenceOption ↦ c.mGeofenceBiDict.getSession g.1) geofences
    (geofences.map Prod.snd) (by
      rw [length_map]
      exact length_filter_le _ _)
  simp only [decide_eq_true_eq] at halign
  constructor
  · intro h
    exact halign.mp (hcall ▸ h.call)
  · exact fun h ↦ ⟨hcall ▸ halign.mpr h, hmasks⟩

/-- A client to which one geofence has been added -/
def withGeofence : LocationAPIClientBase :=
  ((initial true).locAPIAddGeofences [(7, 1)] (some [2])).1

/-- The known id is before the unknown one. -/
theorem pairs_iff_known_first : withGeofence.Pairs [(7, ⟨16, 3, 0, 0⟩), (9, ⟨16, 1, 0, 0⟩)] := by
  refine (pairs_iff ⟨rfl, rfl⟩ _).mpr fun i g hi hknown ↦ ?_
  match i with
  | 0 =>
    obtain rfl := Option.some_inj.mp hi
    rfl
  | 1 =>
    obtain rfl := Option.some_inj.mp hi
    exact absurd hknown (by decide)
  | i + 2 => cases hi

/-- The unknown id is first, and its option is passed for the session of the known one. -/
theorem not_pairs : withGeofence.TakesGeofences ∧
    ¬withGeofence.Pairs [(9, ⟨16, 1, 0, 0⟩), (7, ⟨16, 3, 0, 0⟩)] := by
  refine ⟨⟨rfl, rfl⟩, fun h ↦ ?_⟩
  have hcall := h.call
  revert hcall
  decide

end LocationAPIClientBase

end MataDevice.Client
