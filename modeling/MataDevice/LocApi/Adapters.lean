import MataDevice.Lib.History
import MataDevice.Lib.Unordered

/-!
# The adapters of the modem

`LocApiBase` keeps its adapters in an array without holes, and asks for the events that they want
when it opens the modem. Whenever an adapter comes or goes, or an event mask changes, a message to
open the modem is queued, and a message to close it when the last adapter goes; the masks are read
when the message is processed. Messages may be processed at any time between the calls.

An access outside of the array has no result. The mask of an adapter is changed by the adapter's own
`updateEvtMask`, also while the adapter is not in the array.

The array holds the adapters that have been added and not removed. Once all messages are processed,
the modem has last been opened with the masks of these, unless the last call that queued a message
removed the last adapter. A change of a mask opens the modem again even then, so the modem may be
open without an adapter.
-/

namespace MataDevice.AdapterRegistry

open Unordered List

variable {α : Type}

/-- `MAX_ADAPTERS` -/
def maxAdapters : ℕ := 10

/-- `loc_registration_mask_status` -/
inductive RegistrationMaskStatus
  | enabled
  | disabled
  | set
  deriving DecidableEq, Repr

/-- The messages to the modem's thread -/
inductive LocMsg (α : Type)
  | locOpenMsg (adapter : Option α)
  | locCloseMsg
  deriving DecidableEq, Repr

/-- The adapters are in `mLocAdapters`, with `NULL` as `none`. Their own event masks are in
`mEvtMask`, and `queue` holds the messages that are not processed yet. -/
structure LocApiBase (α : Type) where
  mLocAdapters : List (Option α)
  mExcludedMask : UInt64
  mEvtMask : α → UInt64
  queue : List (LocMsg α)

/-- An adapter may be `NULL`, and `success` is what `open` of the modem gives. -/
inductive Event (α : Type)
  | addAdapter (adapter : Option α)
  | removeAdapter (adapter : Option α)
  | updateEvtMask
  | adapterUpdateEvtMask (adapter : α) (event : UInt64) (status : RegistrationMaskStatus)
  | proc (success : Bool)

/-- What is called when a message is processed -/
inductive Call (α : Type)
  | open (mask : UInt64)
  | close
  | handleEngineUpEvent (adapter : α)
  deriving DecidableEq, Repr

namespace LocApiBase

variable (s : LocApiBase α)

def init (mExcludedMask : UInt64) (mEvtMask : α → UInt64) : LocApiBase α :=
  ⟨List.replicate maxAdapters none, mExcludedMask, mEvtMask, []⟩

def sendMsg (msg : LocMsg α) : LocApiBase α := { s with queue := s.queue ++ [msg] }

/-- The loop of `getEvtMask`, over the adapters up to the first `NULL` -/
def maskOf (mEvtMask : α → UInt64) : List (Option α) → UInt64 → UInt64
  | some adapter :: adapters, mask => maskOf mEvtMask adapters (mask ||| mEvtMask adapter)
  | _, mask => mask

def getEvtMask : UInt64 := maskOf s.mEvtMask s.mLocAdapters 0 &&& ~~~s.mExcludedMask

section

variable [DecidableEq α]

/-- The loop of `addAdapter`: the array with the adapter in the first slot that is `NULL`, if the
adapter is not found before -/
def addTo (adapter : Option α) : List (Option α) → Option (List (Option α))
  | [] => none
  | slot :: slots =>
    if slot = adapter then none
    else if slot.isNone then some (adapter :: slots)
    else (addTo adapter slots).map (slot :: ·)

def addAdapter (adapter : Option α) : LocApiBase α :=
  match addTo adapter s.mLocAdapters with
  | some adapters => { s with mLocAdapters := adapters }.sendMsg (.locOpenMsg adapter)
  | none => s

end

/-- `while (++i < MAX_ADAPTERS && mLocAdapters[i] != NULL);`, with the `i` it ends with -/
def skipUsed (adapters : List (Option α)) : ℕ → ℕ → Option ℕ
  | 0, _ => none
  | rounds + 1, i =>
    if i + 1 < maxAdapters then do
      let slot ← adapters[i + 1]?
      if slot.isSome then skipUsed adapters rounds (i + 1) else some (i + 1)
    else some (i + 1)

/-- Write to the array. -/
def assign (adapters : List (Option α)) (i : ℕ) (adapter : Option α) :
    Option (List (Option α)) :=
  if i < adapters.length then some (adapters.set i adapter) else none

/-- What is done when the adapter is found at `j`, with the `i` that the loop goes on with -/
def removeAt (j : ℕ) : Option (LocApiBase α × ℕ) := do
  let adapters ← assign s.mLocAdapters j none
  let past ← skipUsed adapters maxAdapters j
  let i := past - 1
  let last ← adapters[i]?
  let adapters ← assign adapters j last
  let adapters ← assign adapters i none
  some ({ s with mLocAdapters := adapters }.sendMsg
    (if i = 0 then .locCloseMsg else .locOpenMsg none), i)

section

variable [DecidableEq α]

/-- The loop of `removeAdapter` -/
def removeFrom (adapter : Option α) : ℕ → ℕ → LocApiBase α → Option (LocApiBase α)
  | 0, _, _ => none
  | rounds + 1, i, s =>
    if i < maxAdapters then do
      let slot ← s.mLocAdapters[i]?
      if slot.isNone then some s
      else if slot = adapter then
        let removed ← s.removeAt i
        removeFrom adapter rounds (removed.2 + 1) removed.1
      else removeFrom adapter rounds (i + 1) s
    else some s

def removeAdapter (adapter : Option α) : Option (LocApiBase α) :=
  removeFrom adapter (maxAdapters + 1) 0 s

end

def updateEvtMask : LocApiBase α := s.sendMsg (.locOpenMsg none)

/-- `LocAdapterBase::updateEvtMask` -/
def adapterUpdateEvtMask [DecidableEq α] (adapter : α) (event : UInt64)
    (status : RegistrationMaskStatus) : LocApiBase α :=
  let mask := match status with
    | .enabled => s.mEvtMask adapter ||| event
    | .disabled => s.mEvtMask adapter &&& ~~~event
    | .set => event
  { s with mEvtMask := Function.update s.mEvtMask adapter mask }.updateEvtMask

/-- The first message is processed. -/
def proc (success : Bool) : LocApiBase α × List (Call α) :=
  match s.queue with
  | [] => (s, [])
  | .locOpenMsg adapter :: queue =>
    ({ s with queue := queue },
      .open s.getEvtMask ::
        if success then adapter.toList.map Call.handleEngineUpEvent else [])
  | .locCloseMsg :: queue => ({ s with queue := queue }, [.close])

end LocApiBase

def LocApiBase.step [DecidableEq α] (s : LocApiBase α) :
    Event α → Option (LocApiBase α × List (Call α))
  | .addAdapter adapter => some (s.addAdapter adapter, [])
  | .removeAdapter adapter => (s.removeAdapter adapter).map (·, [])
  | .updateEvtMask => some (s.updateEvtMask, [])
  | .adapterUpdateEvtMask adapter event status =>
    some (s.adapterUpdateEvtMask adapter event status, [])
  | .proc success => some (s.proc success)

/-! ## What has been called -/

/-- What a message asks for -/
inductive Request
  | open
  | close
  deriving DecidableEq, Repr

/-- The adapters that have been added and not removed, and what has last been asked for: to close
the modem by the removal of the last adapter, to open it by any other change -/
structure Ledger (α : Type) where
  registered : List α
  lastRequest : Option Request
  deriving DecidableEq, Repr

def Ledger.next [DecidableEq α] (l : Ledger α) : Event α → Ledger α
  | .addAdapter (some adapter) =>
    if adapter ∈ l.registered then l else ⟨l.registered ++ [adapter], some .open⟩
  | .removeAdapter (some adapter) =>
    if adapter ∈ l.registered then
      let registered := l.registered.erase adapter
      ⟨registered, some (if registered = [] then .close else .open)⟩
    else l
  | .updateEvtMask | .adapterUpdateEvtMask _ _ _ => { l with lastRequest := some .open }
  | .addAdapter none | .removeAdapter none | .proc _ => l

def ledger [DecidableEq α] (hist : List (Item (Event α) (Call α))) : Ledger α :=
  (eventsOf hist).foldl Ledger.next ⟨[], none⟩

/-- The last of the calls that open and close the modem -/
def lastModemCall (hist : List (Item (Event α) (Call α))) : Option (Call α) :=
  latest (fun
    | .out (.open mask) => some (.open mask)
    | .out .close => some .close
    | .out (.handleEngineUpEvent _) | .event _ => none) hist

/-- The modem has not been opened, or has been closed since. -/
def IsClosed (hist : List (Item (Event α) (Call α))) : Prop :=
  ∀ mask, lastModemCall hist ≠ some (.open mask)

/-- The array with the adapters in front -/
def slots (adapters : List α) : List (Option α) :=
  adapters.map some ++ List.replicate (maxAdapters - adapters.length) none

/-- The union of the masks of the adapters -/
def unionOf (mEvtMask : α → UInt64) (adapters : List α) : UInt64 :=
  (adapters.map mEvtMask).foldl (· ||| ·) 0

/-- The registry is right: `closes` says when the modem is to be closed. -/
structure IsRight [DecidableEq α] (closes : Prop) (hist : List (Item (Event α) (Call α)))
    (s : LocApiBase α) : Prop where
  /-- No call leaves the array. -/
  inside : ∀ e, (s.step e).isSome = true
  registry : ∃ adapters : List α, s.mLocAdapters = slots adapters ∧ adapters.Nodup ∧
    adapters.length ≤ maxAdapters ∧ (∀ a, a ∈ adapters ↔ a ∈ (ledger hist).registered) ∧
    (s.queue = [] → (IsClosed hist ↔ closes) ∧ (¬ closes →
      lastModemCall hist = some (.open (unionOf s.mEvtMask adapters &&& ~~~s.mExcludedMask))))

/-! ## The array -/

section Array

variable {s : LocApiBase α} {adapter : Option α} {a : α} {adapters pre post : List α}

theorem slots_append_cons (pre post : List α) (a : α) :
    slots (pre ++ a :: post) = pre.map some ++ some a :: (post.map some
      ++ List.replicate (maxAdapters - (pre ++ a :: post).length) none) := by
  rw [slots, map_append, map_cons, append_assoc, cons_append]

theorem slots_eq_cons_none (h : adapters.length < maxAdapters) :
    slots adapters
      = adapters.map some ++ none :: List.replicate (maxAdapters - (adapters.length + 1)) none := by
  rw [slots, ← replicate_succ]
  congr 2
  omega

theorem getElem?_slots_of_ge {i : ℕ} (h : adapters.length ≤ i) (hi : i < maxAdapters) :
    (slots adapters)[i]? = some none := by
  rw [slots, getElem?_append_right (by rwa [length_map]), length_map,
    getElem?_replicate, if_pos (by omega)]

theorem getElem?_append_cons {β : Type} (front behind : List β) (x : β) :
    (front ++ x :: behind)[front.length]? = some x := by
  rw [getElem?_append_right (Nat.le_refl _), Nat.sub_self, getElem?_cons_zero]

theorem assign_append_cons (front behind : List (Option α)) (x y : Option α) :
    LocApiBase.assign (front ++ x :: behind) front.length y = some (front ++ y :: behind) := by
  rw [LocApiBase.assign, if_pos (by simp), set_append_right _ _ (Nat.le_refl _), Nat.sub_self,
    set_cons_zero]

/-- Behind the slots in use comes a free one or the end. -/
theorem skipUsed_append {front : List (Option α)} {n rounds i : ℕ}
    (hlen : (front ++ (post.map some ++ List.replicate n none)).length = maxAdapters)
    (hi : i + 1 = front.length) (hrounds : post.length < rounds) :
    LocApiBase.skipUsed (front ++ (post.map some ++ List.replicate n none)) rounds i
      = some (front.length + post.length) := by
  induction post generalizing front i rounds with
  | nil =>
    obtain ⟨rounds, rfl⟩ := Nat.exists_eq_add_one_of_ne_zero (Nat.ne_zero_of_lt hrounds)
    rw [LocApiBase.skipUsed, hi, map_nil, nil_append, length_nil, Nat.add_zero]
    cases n with
    | zero =>
      rw [if_neg]
      simp at hlen
      omega
    | succ n =>
      rw [if_pos (by simp at hlen; omega), replicate_succ, getElem?_append_cons]
      rfl
  | cons a post ih =>
    obtain ⟨rounds, rfl⟩ := Nat.exists_eq_add_one_of_ne_zero (Nat.ne_zero_of_lt hrounds)
    have hlt : i + 1 < maxAdapters := by
      simp at hlen
      omega
    have hmove : front ++ ((a :: post).map some ++ List.replicate n none)
        = front ++ [some a] ++ (post.map some ++ List.replicate n none) := by simp
    rw [hmove] at hlen
    have hi' : i + 1 + 1 = (front ++ [some a]).length := by simp [hi]
    have hrest := ih hlen hi' (Nat.lt_of_succ_lt_succ hrounds)
    rw [LocApiBase.skipUsed, if_pos hlt, hi, map_cons, cons_append, getElem?_append_cons,
      Option.bind_eq_bind, Option.bind_some, if_pos (Option.isSome_some), ← hi, append_cons,
      hrest, length_append, length_singleton, length_cons, hi, Nat.add_assoc,
      Nat.add_comm 1]

theorem slots_append_moved {n : ℕ} (hn : pre.length + post.length + 1 + n = maxAdapters) :
    slots (pre ++ moved post)
      = pre.map some ++ ((moved post).map some ++ none :: List.replicate n none) := by
  have hlen := (moved_perm post).length_eq
  rw [slots_eq_cons_none (by rw [length_append, hlen]; omega), map_append,
    append_assoc, length_append, hlen]
  congr 4
  omega

/-- The adapter is removed, and the last one put into its place. -/
theorem removeAt_of (hs : s.mLocAdapters = slots (pre ++ a :: post))
    (hlen : (pre ++ a :: post).length ≤ maxAdapters) :
    s.removeAt pre.length = some
      ({ s with mLocAdapters := slots (pre ++ moved post) }.sendMsg
        (if pre ++ moved post = [] then .locCloseMsg else .locOpenMsg none),
      (pre ++ moved post).length) := by
  obtain ⟨n, hn⟩ := Nat.exists_eq_add_of_le hlen
  rw [length_append, length_cons] at hn
  have hcells : s.mLocAdapters
      = pre.map some ++ some a :: (post.map some ++ List.replicate n none) := by
    rw [hs, slots_append_cons, length_append, length_cons, hn, Nat.add_sub_cancel_left]
  have hassign (x y : Option α) (behind : List (Option α)) :
      LocApiBase.assign (pre.map some ++ x :: behind) pre.length y
        = some (pre.map some ++ y :: behind) := by
    have h := assign_append_cons (pre.map some) behind x y
    rwa [length_map] at h
  have hskip : LocApiBase.skipUsed
      (pre.map some ++ none :: (post.map some ++ List.replicate n none)) maxAdapters pre.length
      = some (pre.length + 1 + post.length) := by
    have hlen' : (pre.map some ++ [none] ++ (post.map some ++ List.replicate n none)).length
        = maxAdapters := by
      simp
      omega
    have h := skipUsed_append hlen' (i := pre.length) (by simp)
      (show post.length < maxAdapters by omega)
    rwa [← append_cons, length_append, length_map, length_singleton] at h
  have hlast : pre.length + 1 + post.length - 1 = (pre ++ moved post).length := by
    rw [length_append, (moved_perm post).length_eq]
    omega
  have hzero : (pre ++ moved post).length = 0 ↔ pre ++ moved post = [] := length_eq_zero_iff
  have hslots := slots_append_moved (show pre.length + post.length + 1 + n = maxAdapters by omega)
  rw [LocApiBase.removeAt, hcells, hslots]
  simp only [hassign, hskip, Option.bind_eq_bind, Option.bind_some, hlast, hzero]
  cases post using List.reverseRecOn with
  | nil =>
    simp [hassign]
  | append_singleton mid z =>
    have hsplit (x : Option α) :
        pre.map some ++ x :: ((mid ++ [z]).map some ++ List.replicate n none)
          = (pre.map some ++ x :: mid.map some) ++ some z :: List.replicate n none := by simp
    have hwhere (x : Option α) :
        (pre ++ moved (mid ++ [z])).length = (pre.map some ++ x :: mid.map some).length := by
      simp [moved_concat]
    have hread := getElem?_append_cons (pre.map some ++ none :: mid.map some)
      (List.replicate n none) (some z)
    have hclear := assign_append_cons (pre.map some ++ some z :: mid.map some)
      (List.replicate n none) (some z) none
    rw [← hwhere, ← hsplit] at hread hclear
    rw [hread, Option.bind_some, hclear, moved_concat]
    simp

variable [DecidableEq α]

theorem removeFrom_behind {rounds i : ℕ} (hs : s.mLocAdapters = slots adapters)
    (hi : adapters.length ≤ i) : s.removeFrom adapter (rounds + 1) i = some s := by
  rw [LocApiBase.removeFrom]
  split
  · next hlt =>
    rw [hs, getElem?_slots_of_ge hi hlt]
    rfl
  · rfl

/-- One round over an adapter -/
theorem removeFrom_append_cons {rounds : ℕ} (hs : s.mLocAdapters = slots (pre ++ a :: post))
    (hlen : (pre ++ a :: post).length ≤ maxAdapters) :
    s.removeFrom adapter (rounds + 1) pre.length =
      if some a = adapter then
        (s.removeAt pre.length).bind fun removed ↦
          removed.1.removeFrom adapter rounds (removed.2 + 1)
      else s.removeFrom adapter rounds (pre.length + 1) := by
  have hlt : pre.length < maxAdapters := by
    simp at hlen
    omega
  have hread := getElem?_append_cons (pre.map some) (post.map some
      ++ List.replicate (maxAdapters - (pre ++ a :: post).length) none) (some a)
  rw [length_map, ← slots_append_cons, ← hs] at hread
  rw [LocApiBase.removeFrom, if_pos hlt, hread]
  rfl

theorem removeFrom_of_not_mem {rounds : ℕ} (hs : s.mLocAdapters = slots (pre ++ post))
    (hlen : (pre ++ post).length ≤ maxAdapters) (hnot : ∀ a ∈ post, some a ≠ adapter)
    (hrounds : post.length < rounds) : s.removeFrom adapter rounds pre.length = some s := by
  obtain ⟨rounds, rfl⟩ := Nat.exists_eq_add_one_of_ne_zero (Nat.ne_zero_of_lt hrounds)
  induction post generalizing pre rounds with
  | nil => exact removeFrom_behind hs (by simp)
  | cons a post ih =>
    obtain ⟨rounds, rfl⟩ := Nat.exists_eq_add_one_of_ne_zero
      (Nat.ne_zero_of_lt (Nat.lt_of_succ_lt_succ hrounds))
    rw [removeFrom_append_cons hs hlen, if_neg (hnot a mem_cons_self)]
    rw [append_cons] at hs hlen
    have hrest := ih hs hlen (fun b hb ↦ hnot b (mem_cons_of_mem a hb)) rounds
      (Nat.lt_of_succ_lt_succ hrounds)
    rwa [length_append] at hrest

theorem removeAdapter_of_not_mem (hs : s.mLocAdapters = slots adapters)
    (hlen : adapters.length ≤ maxAdapters) (hnot : ∀ a ∈ adapters, some a ≠ adapter) :
    s.removeAdapter adapter = some s :=
  removeFrom_of_not_mem (show s.mLocAdapters = slots ([] ++ adapters) from hs) hlen hnot
    (Nat.lt_succ_of_le hlen)

/-- The loop goes on to the adapter, removes it, and ends behind the last one. -/
theorem removeFrom_of_mem {first : List α} {rounds : ℕ}
    (hs : s.mLocAdapters = slots (first ++ (pre ++ a :: post)))
    (hlen : (first ++ (pre ++ a :: post)).length ≤ maxAdapters) (hpre : a ∉ pre)
    (hrounds : pre.length + 1 < rounds) :
    s.removeFrom (some a) rounds first.length = some
      ({ s with mLocAdapters := slots (first ++ (pre ++ moved post)) }.sendMsg
        (if first ++ (pre ++ moved post) = [] then .locCloseMsg else .locOpenMsg none)) := by
  obtain ⟨rounds, rfl⟩ := Nat.exists_eq_add_one_of_ne_zero (Nat.ne_zero_of_lt hrounds)
  have hrounds' := Nat.lt_of_succ_lt_succ hrounds
  obtain ⟨rounds, rfl⟩ := Nat.exists_eq_add_one_of_ne_zero (Nat.ne_zero_of_lt hrounds')
  induction pre generalizing first rounds with
  | nil =>
    rw [nil_append] at hs hlen
    rw [removeFrom_append_cons hs hlen, if_pos rfl, removeAt_of hs hlen, Option.bind_some,
      nil_append]
    exact removeFrom_behind rfl (Nat.le_succ _)
  | cons b pre ih =>
    obtain ⟨rounds, rfl⟩ := Nat.exists_eq_add_one_of_ne_zero
      (Nat.ne_zero_of_lt (Nat.lt_of_succ_lt_succ hrounds'))
    have hne : some b ≠ some a := fun h ↦ hpre (Option.some.inj h ▸ mem_cons_self)
    rw [cons_append] at hs hlen ⊢
    rw [removeFrom_append_cons hs hlen, if_neg hne]
    rw [append_cons] at hs hlen ⊢
    have hrest := ih hs hlen (fun h ↦ hpre (mem_cons_of_mem b h)) rounds
      (Nat.lt_of_succ_lt_succ hrounds) (Nat.lt_of_succ_lt_succ hrounds')
    rwa [length_append] at hrest

theorem removeAdapter_of_mem (hs : s.mLocAdapters = slots (pre ++ a :: post))
    (hlen : (pre ++ a :: post).length ≤ maxAdapters) (hpre : a ∉ pre) :
    s.removeAdapter (some a) = some
      ({ s with mLocAdapters := slots (pre ++ moved post) }.sendMsg
        (if pre ++ moved post = [] then .locCloseMsg else .locOpenMsg none)) := by
  have hs' : s.mLocAdapters = slots ([] ++ (pre ++ a :: post)) := hs
  refine removeFrom_of_mem hs' hlen hpre ?_
  rw [length_append, length_cons] at hlen
  omega

theorem addTo_of_mem (h : a ∈ adapters) (rest : List (Option α)) :
    LocApiBase.addTo (some a) (adapters.map some ++ rest) = none := by
  induction adapters with
  | nil => cases h
  | cons b adapters ih =>
    rw [map_cons, cons_append, LocApiBase.addTo]
    by_cases hb : b = a
    · rw [if_pos (congrArg some hb)]
    · have ha : a ∈ adapters := (mem_cons.mp h).resolve_left fun h ↦ hb h.symm
      rw [if_neg fun h ↦ hb (Option.some.inj h), ih ha]
      rfl

theorem addTo_null (adapters : List α) (n : ℕ) :
    LocApiBase.addTo none (adapters.map some ++ List.replicate n none) = none := by
  induction adapters with
  | nil =>
    cases n with
    | zero => rfl
    | succ n =>
      rw [map_nil, nil_append, replicate_succ, LocApiBase.addTo, if_pos rfl]
  | cons b adapters ih =>
    rw [map_cons, cons_append, LocApiBase.addTo, ih]
    rfl

theorem addTo_of_not_mem (h : a ∉ adapters) (rest : List (Option α)) :
    LocApiBase.addTo (some a) (adapters.map some ++ none :: rest)
      = some (adapters.map some ++ some a :: rest) := by
  induction adapters with
  | nil => rfl
  | cons b adapters ih =>
    rw [mem_cons, not_or] at h
    obtain ⟨hne, hnot⟩ := h
    rw [map_cons, cons_append, LocApiBase.addTo,
      if_neg fun h ↦ hne (Option.some.inj h).symm, ih hnot]
    rfl

end Array

/-! ## Runs -/

section Runs

variable {s s' : LocApiBase α} {a : α} {adapters pre post : List α}
  {hist : List (Item (Event α) (Call α))} {e : Event α} {outs : List (Call α)}

def LocMsg.request : LocMsg α → Request
  | .locOpenMsg _ => .open
  | .locCloseMsg => .close

/-- The call that serves a request in a state -/
def callFor (s : LocApiBase α) : Request → Call α
  | .open => .open s.getEvtMask
  | .close => .close

/-- What has last been asked for is the last message, or has been done with the masks that the
adapters have now. -/
def Served (lastRequest : Option Request) (lastCall : Option (Call α)) (s : LocApiBase α) : Prop :=
  match lastRequest with
  | none => s.queue = [] ∧ lastCall = none
  | some request =>
    s.queue.getLast?.map LocMsg.request = some request ∨
      s.queue = [] ∧ lastCall = some (callFor s request)

theorem served_sendMsg (lastCall : Option (Call α)) (s : LocApiBase α) (msg : LocMsg α) :
    Served (some msg.request) lastCall (s.sendMsg msg) := by
  left
  rw [LocApiBase.sendMsg, getLast?_concat]
  rfl

theorem maskOf_slots (mEvtMask : α → UInt64) (adapters : List α) :
    LocApiBase.maskOf mEvtMask (slots adapters) 0 = unionOf mEvtMask adapters := by
  have hfold (n : ℕ) (mask : UInt64) :
      LocApiBase.maskOf mEvtMask (adapters.map some ++ List.replicate n none) mask
        = (adapters.map mEvtMask).foldl (· ||| ·) mask := by
    induction adapters generalizing mask with
    | nil => cases n <;> rfl
    | cons a adapters ih => exact ih (mask ||| mEvtMask a)
  exact hfold _ 0

theorem lastModemCall_append_event (hist : List (Item (Event α) (Call α))) (e : Event α) :
    lastModemCall (hist ++ entry e []) = lastModemCall hist := by
  rw [lastModemCall, latest_append]
  rfl

theorem lastModemCall_append_open (hist : List (Item (Event α) (Call α))) (success : Bool)
    (mask : UInt64) (adapter : Option α) :
    lastModemCall (hist ++ entry (.proc success)
      (.open mask :: if success then adapter.toList.map Call.handleEngineUpEvent else []))
      = some (.open mask) := by
  rw [lastModemCall, latest_append]
  cases success with
  | false => rfl
  | true => cases adapter <;> rfl

theorem lastModemCall_append_close (hist : List (Item (Event α) (Call α))) (success : Bool) :
    lastModemCall (hist ++ entry (.proc success) [.close]) = some .close := by
  rw [lastModemCall, latest_append]
  rfl

/-- The first message is taken out of the queue. -/
theorem served_of_cons {lastRequest : Option Request} {lastCall : Option (Call α)}
    {msg : LocMsg α} {queue : List (LocMsg α)} (h : Served lastRequest lastCall s)
    (hqueue : s.queue = msg :: queue) :
    Served lastRequest (some (callFor s msg.request)) { s with queue := queue } := by
  cases lastRequest with
  | none => exact absurd (hqueue.symm.trans h.1) (cons_ne_nil msg queue)
  | some request =>
    have hlast : s.queue.getLast?.map LocMsg.request = some request :=
      h.resolve_right fun hnil ↦ cons_ne_nil msg queue (hqueue.symm.trans hnil.1)
    rw [hqueue] at hlast
    cases queue with
    | nil =>
      obtain rfl := Option.some.inj hlast
      exact .inr ⟨rfl, by cases msg <;> rfl⟩
    | cons msg' queue => exact .inl hlast

variable [DecidableEq α]

/-- How the array and the messages stand to what has been called -/
structure Inv (hist : List (Item (Event α) (Call α))) (s : LocApiBase α) : Prop where
  registry : ∃ adapters : List α, s.mLocAdapters = slots adapters ∧ adapters.Nodup ∧
    adapters.length ≤ maxAdapters ∧ adapters.Perm (ledger hist).registered
  served : Served (ledger hist).lastRequest (lastModemCall hist) s

theorem ledger_append_entry (hist : List (Item (Event α) (Call α))) (e : Event α)
    (outs : List (Call α)) : ledger (hist ++ entry e outs) = (ledger hist).next e := by
  rw [ledger, eventsOf_append_entry, foldl_append]
  rfl

/-- At most `MAX_ADAPTERS` adapters are registered at a time. -/
def WithinCapacity (hist : List (Item (Event α) (Call α))) : Prop :=
  ∀ pre, pre <+: hist → (ledger pre).registered.length ≤ maxAdapters

/-- Nothing changes. -/
theorem Inv.skip (h : Inv hist s) (hledger : (ledger hist).next e = ledger hist) :
    Inv (hist ++ entry e []) s where
  registry := by
    rw [ledger_append_entry, hledger]
    exact h.registry
  served := by
    rw [ledger_append_entry, hledger, lastModemCall_append_event]
    exact h.served

/-- A message is queued for what is asked for. -/
theorem Inv.send {msg : LocMsg α} (hs : s.mLocAdapters = slots adapters) (hnodup : adapters.Nodup)
    (hlen : adapters.length ≤ maxAdapters)
    (hperm : adapters.Perm ((ledger hist).next e).registered)
    (hlast : ((ledger hist).next e).lastRequest = some msg.request) :
    Inv (hist ++ entry e []) (s.sendMsg msg) where
  registry := by
    rw [ledger_append_entry]
    exact ⟨adapters, hs, hnodup, hlen, hperm⟩
  served := by
    rw [ledger_append_entry, hlast]
    exact served_sendMsg _ s msg

theorem Inv.addAdapter (h : Inv hist s) (adapter : Option α)
    (hcap : ((ledger hist).next (.addAdapter adapter)).registered.length ≤ maxAdapters) :
    Inv (hist ++ entry (.addAdapter adapter) []) (s.addAdapter adapter) := by
  obtain ⟨adapters, hs, hnodup, hlen, hperm⟩ := h.registry
  cases adapter with
  | none =>
    have hsame : s.addAdapter none = s := by
      rw [LocApiBase.addAdapter, hs, slots, addTo_null]
    rw [hsame]
    exact h.skip rfl
  | some a =>
    by_cases ha : a ∈ adapters
    · have hsame : s.addAdapter (some a) = s := by
        rw [LocApiBase.addAdapter, hs, slots, addTo_of_mem ha]
      rw [hsame]
      exact h.skip (if_pos (hperm.mem_iff.mp ha))
    · have hledger : (ledger hist).next (.addAdapter (some a))
          = ⟨(ledger hist).registered ++ [a], some .open⟩ :=
        if_neg fun hmem ↦ ha (hperm.mem_iff.mpr hmem)
      rw [hledger, length_append, ← hperm.length_eq, length_singleton] at hcap
      have hadded : s.addAdapter (some a)
          = { s with mLocAdapters := slots (adapters ++ [a]) }.sendMsg (.locOpenMsg (some a)) := by
        rw [LocApiBase.addAdapter, hs, slots_eq_cons_none hcap, addTo_of_not_mem ha,
          slots_append_cons]
        simp
      rw [hadded]
      refine Inv.send (show _ = slots (adapters ++ [a]) from rfl) ?_ ?_ ?_ ?_
      · exact nodup_append_comm.mp (nodup_cons.mpr ⟨ha, hnodup⟩)
      · rwa [length_append, length_singleton]
      · rw [hledger]
        exact hperm.append_right [a]
      · rw [hledger]
        rfl

theorem Inv.removeAdapter (h : Inv hist s) (adapter : Option α) :
    ∃ s', s.removeAdapter adapter = some s' ∧
      Inv (hist ++ entry (.removeAdapter adapter) []) s' := by
  obtain ⟨adapters, hs, hnodup, hlen, hperm⟩ := h.registry
  cases adapter with
  | none =>
    exact ⟨s, removeAdapter_of_not_mem hs hlen fun a _ ↦ Option.some_ne_none a, h.skip rfl⟩
  | some a =>
    by_cases ha : a ∈ adapters
    · have hledger : (ledger hist).next (.removeAdapter (some a))
          = ⟨(ledger hist).registered.erase a,
            some (if (ledger hist).registered.erase a = [] then .close else .open)⟩ :=
        if_pos (hperm.mem_iff.mp ha)
      obtain ⟨pre, post, rfl⟩ := append_of_mem ha
      have hmiddle : (pre ++ a :: post).Perm (a :: (pre ++ post)) := perm_middle
      obtain ⟨hnot, hrest⟩ := nodup_cons.mp (hmiddle.nodup_iff.mp hnodup)
      rw [mem_append, not_or] at hnot
      have hmoved : (pre ++ moved post).Perm (pre ++ post) := (moved_perm post).append_left pre
      have herase : ((ledger hist).registered.erase a).Perm (pre ++ moved post) := by
        have h := (hperm.symm.trans hmiddle).erase a
        rw [erase_cons_head] at h
        exact h.trans hmoved.symm
      have hempty : (ledger hist).registered.erase a = [] ↔ pre ++ moved post = [] :=
        ⟨fun hnil ↦ (hnil ▸ herase).nil_eq.symm, fun hnil ↦ (hnil ▸ herase).eq_nil⟩
      refine ⟨_, removeAdapter_of_mem hs hlen hnot.1, ?_⟩
      refine Inv.send (show _ = slots (pre ++ moved post) from rfl) (hmoved.nodup_iff.mpr hrest)
        ?_ ?_ ?_
      · rw [hmiddle.length_eq, length_cons] at hlen
        rw [hmoved.length_eq]
        exact Nat.le_of_succ_le hlen
      · rw [hledger]
        exact herase.symm
      · rw [hledger]
        dsimp only
        simp only [hempty]
        split <;> rfl
    · refine ⟨s, removeAdapter_of_not_mem hs hlen fun b hb heq ↦
        ha (Option.some.inj heq ▸ hb), h.skip ?_⟩
      exact if_neg fun hmem ↦ ha (hperm.mem_iff.mpr hmem)

theorem Inv.proc (h : Inv hist s) (success : Bool) :
    Inv (hist ++ entry (.proc success) (s.proc success).2) (s.proc success).1 := by
  have hledger : (ledger hist).next (.proc success) = ledger hist := rfl
  rw [LocApiBase.proc]
  cases hqueue : s.queue with
  | nil => exact h.skip hledger
  | cons msg queue =>
    have hserved := served_of_cons h.served hqueue
    cases msg with
    | locOpenMsg adapter =>
      refine ⟨?_, ?_⟩
      · rw [ledger_append_entry, hledger]
        exact h.registry
      · rw [ledger_append_entry, hledger, lastModemCall_append_open]
        exact hserved
    | locCloseMsg =>
      refine ⟨?_, ?_⟩
      · rw [ledger_append_entry, hledger]
        exact h.registry
      · rw [ledger_append_entry, hledger, lastModemCall_append_close]
        exact hserved

theorem Inv.step (h : Inv hist s) (hcap : WithinCapacity (hist ++ entry e outs))
    (hstep : s.step e = some (s', outs)) : Inv (hist ++ entry e outs) s' := by
  cases e with
  | addAdapter adapter =>
    obtain ⟨rfl, rfl⟩ := Prod.mk.inj (Option.some.inj hstep)
    have hlen := hcap _ (prefix_refl _)
    rw [ledger_append_entry] at hlen
    exact h.addAdapter adapter hlen
  | removeAdapter adapter =>
    obtain ⟨s₁, hs₁, heq⟩ := Option.map_eq_some_iff.mp hstep
    obtain ⟨rfl, rfl⟩ := Prod.mk.inj heq
    obtain ⟨s₂, hs₂, h₂⟩ := h.removeAdapter adapter
    obtain rfl := Option.some.inj (hs₁.symm.trans hs₂)
    exact h₂
  | updateEvtMask | adapterUpdateEvtMask adapter event status =>
    obtain ⟨rfl, rfl⟩ := Prod.mk.inj (Option.some.inj hstep)
    obtain ⟨adapters, hs, hnodup, hlen, hperm⟩ := h.registry
    exact Inv.send hs hnodup hlen hperm rfl
  | proc success =>
    obtain ⟨rfl, rfl⟩ := Prod.mk.inj (Option.some.inj hstep)
    exact h.proc success

theorem Inv.of_run {mExcludedMask : UInt64} {mEvtMask : α → UInt64}
    (h : Run LocApiBase.step (fun _ _ ↦ True) (LocApiBase.init mExcludedMask mEvtMask) hist s)
    (hcap : WithinCapacity hist) : Inv hist s := by
  induction h with
  | start =>
    exact ⟨⟨[], rfl, nodup_nil, Nat.zero_le _, List.Perm.refl _⟩, rfl, rfl⟩
  | step _ _ hstep ih =>
    exact (ih fun pre hpre ↦ hcap pre (hpre.trans (prefix_append _ _))).step hcap hstep

/-- **The registry is right.** As long as no more than `MAX_ADAPTERS` adapters are registered at a
time, the array holds the adapters that have been added and not removed, in front and each once, and
is never left; and once the messages are processed, the modem is closed exactly if nothing has been
asked for or the last call that asked for something removed the last adapter, and has otherwise last
been opened with the masks of the registered adapters without what is excluded. -/
theorem adapterRegistry_correct {mExcludedMask : UInt64} {mEvtMask : α → UInt64}
    (h : Run LocApiBase.step (fun _ _ ↦ True) (LocApiBase.init mExcludedMask mEvtMask) hist s)
    (hcap : WithinCapacity hist) : IsRight ((ledger hist).lastRequest ≠ some .open) hist s := by
  have hinv := Inv.of_run h hcap
  obtain ⟨adapters, hs, hnodup, hlen, hperm⟩ := hinv.registry
  refine ⟨fun e ↦ ?_, adapters, hs, hnodup, hlen, fun a ↦ hperm.mem_iff, fun hqueue ↦ ?_⟩
  · cases e with
    | removeAdapter adapter =>
      obtain ⟨s', hs', -⟩ := hinv.removeAdapter adapter
      rw [LocApiBase.step, hs']
      rfl
    | addAdapter adapter => rfl
    | updateEvtMask => rfl
    | adapterUpdateEvtMask adapter event status => rfl
    | proc success => rfl
  · have hserved := hinv.served
    have hmask : s.getEvtMask = unionOf s.mEvtMask adapters &&& ~~~s.mExcludedMask := by
      rw [LocApiBase.getEvtMask, hs, maskOf_slots]
    cases hlast : (ledger hist).lastRequest with
    | none =>
      rw [hlast] at hserved
      have hclosed : IsClosed hist := fun mask ↦ by simp [hserved.2]
      exact ⟨iff_of_true hclosed (by simp), fun h ↦ absurd (by simp) h⟩
    | some request =>
      rw [hlast] at hserved
      have hcall : lastModemCall hist = some (callFor s request) := by
        rcases hserved with hmsg | ⟨-, hcall⟩
        · rw [hqueue] at hmsg
          cases hmsg
        · exact hcall
      cases request with
      | «open» =>
        refine ⟨iff_of_false (fun hclosed ↦ hclosed s.getEvtMask hcall) (by simp), fun _ ↦ ?_⟩
        rw [← hmask]
        exact hcall
      | close =>
        have hclosed : IsClosed hist := fun mask ↦ by simp [hcall, callFor]
        exact ⟨iff_of_true hclosed (by simp), fun h ↦ absurd (by simp) h⟩

/-- The registry is empty, and has not always been. -/
def BecameEmpty (hist : List (Item (Event α) (Call α))) : Prop :=
  (ledger hist).registered = [] ∧ ∃ pre, pre <+: hist ∧ (ledger pre).registered ≠ []

theorem withinCapacity_of_inits
    (h : ∀ pre ∈ hist.inits, (ledger pre).registered.length ≤ maxAdapters) : WithinCapacity hist :=
  fun pre hpre ↦ h pre ((mem_inits pre hist).mpr hpre)

end Runs

/-- An adapter comes and one of two goes, and the messages are processed. -/
theorem adapterRegistry_correct_two :
    ∃ hist s, Run LocApiBase.step (fun _ _ ↦ True)
        (LocApiBase.init 2 fun c ↦ if c = 'A' then 1 else 6) hist s ∧
      s.queue = [] ∧ lastModemCall hist = some (.open 4) ∧
      IsRight ((ledger hist).lastRequest ≠ some .open) hist s := by
  obtain ⟨hist, s, hrun, hqueue, hcall, hcap⟩ := Run.exists_of_runEvents
    LocApiBase.step (fun _ _ ↦ True) (LocApiBase.init 2 fun c ↦ if c = 'A' then 1 else 6)
    [.addAdapter (some 'A'), .addAdapter (some 'B'), .proc true, .addAdapter (some 'B'),
      .removeAdapter (some 'A'), .removeAdapter (some 'C'), .proc true, .proc true]
    (fun hist s ↦ s.queue = [] ∧ lastModemCall hist = some (.open 4) ∧
      ∀ pre ∈ hist.inits, (ledger pre).registered.length ≤ maxAdapters)
    (by decide)
  exact ⟨hist, s, hrun, hqueue, hcall,
    adapterRegistry_correct hrun (withinCapacity_of_inits hcap)⟩

/-- A change of a mask opens the modem again after the last adapter has gone. -/
theorem not_isRight_becameEmpty :
    ∃ (hist : List (Item (Event Char) (Call Char))) (s : LocApiBase Char),
      Run LocApiBase.step (fun _ _ ↦ True) (LocApiBase.init 0 fun _ ↦ 1) hist s ∧
      WithinCapacity hist ∧ ¬ IsRight (BecameEmpty hist) hist s := by
  obtain ⟨hist, s, hrun, hqueue, hcall, hnil, ⟨pre, hpre, hne⟩, hcap⟩ := Run.exists_of_runEvents
    LocApiBase.step (fun _ _ ↦ True) (LocApiBase.init 0 fun _ ↦ 1)
    [.addAdapter (some 'A'), .removeAdapter (some 'A'), .updateEvtMask, .proc true, .proc true,
      .proc true]
    (fun hist s ↦ s.queue = [] ∧ lastModemCall hist = some (.open 0) ∧
      (ledger hist).registered = [] ∧ (∃ pre ∈ hist.inits, (ledger pre).registered ≠ []) ∧
      ∀ pre ∈ hist.inits, (ledger pre).registered.length ≤ maxAdapters)
    (by decide)
  refine ⟨hist, s, hrun, withinCapacity_of_inits hcap, fun hright ↦ ?_⟩
  obtain ⟨adapters, -, -, -, -, hmodem⟩ := hright.registry
  have hempty : BecameEmpty hist := ⟨hnil, pre, (mem_inits pre hist).mp hpre, hne⟩
  exact (hmodem hqueue).1.mpr hempty 0 hcall

end MataDevice.AdapterRegistry
