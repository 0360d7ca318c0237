import MataDevice.Geofence.Adapter

/-!
# The responses to the batch commands

A command of the geofence adapter is for a number of items and is answered once, with an array of
errors. The array is filled by callbacks: those of `addToCallQueue`, in which an id is looked up,
and those of the requests to the engine. The callback for the last item sends the response.

The calls of a command are all in the queue before the first of its requests is, so that all ids are
looked up before the first answer of the engine comes. If the last id is not known, the response is
sent then, and has success for the requests that are still on their way. There is more to say about
`resumeGeofencesCommand`, which drops errors of the engine, with the response if it is for the last
item, about `modifyGeofencesCommand`, which drops them unless the engine lock is disabled, and about
commands without their arrays, which are not answered.

What other commands do in between shows in the outcomes only: whether an id is known when it is
looked up, and what the engine answers.
-/

namespace MataDevice.Geofence

open List
open MataDevice.Tracking (LocationError EngineLockState)

/-- An item of a command and what becomes of it. -/
structure Outcome where
  id : ℕ
  /-- `getHwIdFromClient` finds the id. -/
  known : Bool
  /-- The answer of the engine, if it is asked. -/
  result : LocationError
  /-- The engine lock when the answer is handled. -/
  lock : EngineLockState
  deriving DecidableEq, Repr

/-- Where the callbacks of the commands differ. -/
structure Callbacks where
  /-- The options, or options and infos, have to be there. -/
  needsArrays : Bool
  /-- The ids are looked up. -/
  looksUp : Bool
  /-- Whether the answer of the engine is written to the array of errors. -/
  records : EngineLockState → LocationError → Bool
  /-- Whether the response is sent with the answer for the last item. -/
  reports : LocationError → Bool

def addGeofencesCommand : Callbacks := ⟨true, false, fun _ _ ↦ true, fun _ ↦ true⟩

def removeGeofencesCommand : Callbacks := ⟨false, true, fun _ _ ↦ true, fun _ ↦ true⟩

def pauseGeofencesCommand : Callbacks := ⟨false, true, fun _ _ ↦ true, fun _ ↦ true⟩

def resumeGeofencesCommand : Callbacks :=
  ⟨false, true, fun _ err ↦ err = .success, fun err ↦ err = .success⟩

def modifyGeofencesCommand : Callbacks :=
  ⟨true, true, fun lock err ↦ lock = .disabled ∨ err = .success, fun _ ↦ true⟩

inductive Kind
  | add
  | remove
  | pause
  | resume
  | modify
  deriving DecidableEq, Repr

def Kind.callbacks : Kind → Callbacks
  | .add => addGeofencesCommand
  | .remove => removeGeofencesCommand
  | .pause => pauseGeofencesCommand
  | .resume => resumeGeofencesCommand
  | .modify => modifyGeofencesCommand

structure Command where
  kind : Kind
  /-- No array is missing. -/
  arrays : Bool
  items : List Outcome
  /-- The client has a `collectiveResponseCb`. -/
  registered : Bool
  deriving DecidableEq, Repr

/-- An entry of the queue that belongs to an item of the command. -/
inductive Entry
  /-- From `addToCallQueue`. -/
  | call (i : ℕ) (item : Outcome)
  /-- A request to the engine. -/
  | engine (i : ℕ) (item : Outcome)
  deriving DecidableEq, Repr

/-- A command on its way. An error that is not written yet is `none`. -/
structure Batch where
  errs : List (Option LocationError)
  queue : List Entry
  /-- The ids and errors of the responses. -/
  responses : List (List ℕ × List (Option LocationError))
  deriving DecidableEq, Repr

namespace Command

variable (c : Command)

def callbacks : Callbacks := c.kind.callbacks

/-- The engine is asked for the item. -/
def Reaches (item : Outcome) : Prop := c.callbacks.looksUp = true → item.known = true

instance (item : Outcome) : Decidable (c.Reaches item) := inferInstanceAs (Decidable (_ → _))

/-- `reportResponse`. -/
def reportResponse (b : Batch) : Batch :=
  if c.registered then { b with responses := b.responses ++ [(c.items.map (·.id), b.errs)] } else b

/-- `i == mCount-1`. -/
def IsLast (i : ℕ) : Prop := i = c.items.length - 1

instance (i : ℕ) : Decidable (c.IsLast i) := inferInstanceAs (Decidable (_ = _))

/-- What `proc` of the message does. -/
def start : Batch :=
  if c.callbacks.needsArrays && !c.arrays then
    ⟨c.items.map fun _ ↦ some .invalidParameter, [], []⟩
  else ⟨c.items.map fun _ ↦ none, (c.items.zipIdx).map fun e ↦ .call e.2 e.1, []⟩

/-- What the callbacks do. -/
def handle (b : Batch) : Entry → Batch
  | .call i item =>
    if c.callbacks.looksUp then
      if item.known then
        { b with errs := b.errs.set i (some .success), queue := b.queue ++ [.engine i item] }
      else
        let b := { b with errs := b.errs.set i (some .idUnknown) }
        if c.IsLast i then c.reportResponse b else b
    else { b with queue := b.queue ++ [.engine i item] }
  | .engine i item =>
    let b :=
      if c.callbacks.records item.lock item.result then
        { b with errs := b.errs.set i (some item.result) }
      else b
    if c.IsLast i ∧ c.callbacks.reports item.result then c.reportResponse b else b

/-- A number of entries of the queue, one after the other. -/
def drain : ℕ → Batch → Batch
  | 0, b => b
  | n + 1, b =>
    match b.queue with
    | [] => b
    | entry :: queue => drain n (c.handle { b with queue := queue } entry)

/-- The command when everything has come back: every item has a call and at most one request. -/
def finish : Batch := c.drain (2 * c.items.length) c.start

/-- The error an item should be answered with. -/
def expected (item : Outcome) : LocationError :=
  if c.callbacks.needsArrays && !c.arrays then .invalidParameter
  else if c.Reaches item then item.result
  else .idUnknown

/-- The client gets one response, with the errors of the items in their order. -/
def Answered : Prop :=
  c.finish.queue = [] ∧
    c.finish.responses = [(c.items.map (·.id), c.items.map fun item ↦ some (c.expected item))]

instance : Decidable c.Answered := inferInstanceAs (Decidable (_ ∧ _))

/-- The engine is asked for the last item. -/
def LastReaches : Prop := ∀ item ∈ c.items.getLast?, c.Reaches item

instance : Decidable c.LastReaches := inferInstanceAs (Decidable (∀ item ∈ c.items.getLast?, _))

/-- The engine does all that it is asked for. -/
def AllSucceed : Prop := ∀ item ∈ c.items, c.Reaches item → item.result = .success

instance : Decidable c.AllSucceed := inferInstanceAs (Decidable (∀ item ∈ c.items, _))

/-- When the command is answered as it should be. -/
def Regular : Prop :=
  c.registered = true ∧ match c.kind with
    | .add => c.arrays = true
    | .remove | .pause => c.LastReaches ∨ c.AllSucceed
    | .resume => c.AllSucceed
    | .modify => c.arrays = true ∧ (c.AllSucceed ∨
        c.LastReaches ∧ ∀ item ∈ c.items, c.Reaches item →
          item.result = .success ∨ item.lock = .disabled)

/-! ## One entry of the queue -/

/-- The error of an item when all ids have been looked up. -/
def first (c : Command) (item : Outcome) : Option LocationError :=
  if c.callbacks.looksUp then some (if item.known then .success else .idUnknown) else none

/-- The error of an item in the end. -/
def final (c : Command) (item : Outcome) : Option LocationError :=
  if c.Reaches item ∧ c.callbacks.records item.lock item.result then some item.result
  else c.first item

/-- What is sent if it is time for the response. -/
def responseIf (c : Command) (due : Bool) (errs : List (Option LocationError)) :
    List (List ℕ × List (Option LocationError)) :=
  if c.registered && due then [(c.items.map (·.id), errs)] else []

variable {c : Command} {b : Batch} {item : Outcome} {items : List Outcome} {i : ℕ}
  {pre errs : List (Option LocationError)} {queue : List Entry}
  {responses : List (List ℕ × List (Option LocationError))}

@[simp] theorem responseIf_false : c.responseIf false errs = [] := by simp [responseIf]

theorem reportResponse_eq (b : Batch) :
    c.reportResponse b = ⟨b.errs, b.queue, b.responses ++ c.responseIf true b.errs⟩ := by
  rw [reportResponse, responseIf]
  cases c.registered with
  | true => rfl
  | false => simp

theorem handle_call (h : b.errs[i]? = some none) :
    c.handle b (.call i item) = ⟨b.errs.set i (c.first item),
      b.queue ++ (if c.Reaches item then [.engine i item] else []),
      b.responses ++
        c.responseIf (¬c.Reaches item && c.IsLast i) (b.errs.set i (c.first item))⟩ := by
  cases hlooks : c.callbacks.looksUp with
  | false =>
    have hreach : c.Reaches item := by simp [Reaches, hlooks]
    obtain ⟨hi, hnone⟩ := List.getElem?_eq_some_iff.mp h
    have hset : b.errs.set i none = b.errs := by rw [← hnone, set_getElem_self]
    simp [handle, hlooks, first, hreach, hset]
  | true =>
    cases hknown : item.known with
    | true =>
      have hreach : c.Reaches item := fun _ ↦ hknown
      simp [handle, hlooks, hknown, first, hreach]
    | false =>
      have hreach : ¬c.Reaches item := by simp [Reaches, hlooks, hknown]
      by_cases hlast : c.IsLast i
      · simp [handle, hlooks, hknown, first, hreach, hlast, reportResponse_eq]
      · simp [handle, hlooks, hknown, first, hreach, hlast]

theorem handle_engine (h : b.errs[i]? = some (c.first item)) (hreach : c.Reaches item) :
    c.handle b (.engine i item) = ⟨b.errs.set i (c.final item), b.queue,
      b.responses ++ c.responseIf (c.callbacks.reports item.result && c.IsLast i)
        (b.errs.set i (c.final item))⟩ := by
  obtain ⟨hi, hfirst⟩ := List.getElem?_eq_some_iff.mp h
  have hset : b.errs.set i (c.first item) = b.errs := by rw [← hfirst, set_getElem_self]
  -- the array of errors
  have herrs : (if c.callbacks.records item.lock item.result then
      { b with errs := b.errs.set i (some item.result) } else b) =
      { b with errs := b.errs.set i (c.final item) } := by
    cases hrec : c.callbacks.records item.lock item.result with
    | true => simp [final, hreach, hrec]
    | false => simp [final, hrec, hset]
  simp only [handle, herrs]
  cases hreports : c.callbacks.reports item.result with
  | false => simp
  | true =>
    by_cases hlast : c.IsLast i
    · simp [hlast, reportResponse_eq]
    · simp [hlast]

/-! ## The queue -/

theorem drain_of_queue_nil (n : ℕ) (h : b.queue = []) : c.drain n b = b := by
  cases n with
  | zero => rfl
  | succ n => rw [drain, h]

theorem drain_add (m n : ℕ) (b : Batch) : c.drain (m + n) b = c.drain n (c.drain m b) := by
  induction m generalizing b with
  | zero => rw [Nat.zero_add, drain]
  | succ m ih =>
    rw [Nat.add_right_comm, drain, drain]
    split
    · next h => rw [drain_of_queue_nil n h]
    · exact ih _

/-- A call that comes back. -/
theorem drain_call (n : ℕ) :
    c.drain (n + 1) ⟨pre ++ none :: errs, .call pre.length item :: queue, responses⟩ =
      c.drain n ⟨(pre ++ [c.first item]) ++ errs,
        queue ++ (if c.Reaches item then [.engine pre.length item] else []),
        responses ++ c.responseIf (¬c.Reaches item && c.IsLast pre.length)
          ((pre ++ [c.first item]) ++ errs)⟩ := by
  rw [drain]
  simp only
  rw [handle_call (by simp)]
  simp

/-- A request that comes back. -/
theorem drain_engine (hreach : c.Reaches item) (n : ℕ) :
    c.drain (n + 1) ⟨pre ++ c.first item :: errs, .engine pre.length item :: queue, responses⟩ =
      c.drain n ⟨(pre ++ [c.final item]) ++ errs, queue,
        responses ++ c.responseIf (c.callbacks.reports item.result && c.IsLast pre.length)
          ((pre ++ [c.final item]) ++ errs)⟩ := by
  rw [drain]
  simp only
  rw [handle_engine (by simp) hreach]
  simp

/-- The calls for the items from an index on. -/
def callsFrom (k : ℕ) (items : List Outcome) : List Entry :=
  (items.zipIdx k).map fun e ↦ .call e.2 e.1

/-- The requests for the items from an index on. -/
def enginesFrom (c : Command) (k : ℕ) : List Outcome → List Entry
  | [] => []
  | item :: items =>
    (if c.Reaches item then [.engine k item] else []) ++ c.enginesFrom (k + 1) items

theorem length_enginesFrom_le (k : ℕ) (items : List Outcome) :
    (c.enginesFrom k items).length ≤ items.length := by
  induction items generalizing k with
  | nil => rfl
  | cons item items ih =>
    rw [enginesFrom, length_append, length_cons]
    have hle := ih (k + 1)
    split
    · rw [length_singleton]
      omega
    · rw [length_nil]
      omega

/-- The response is sent with the item at the head if nothing follows, and later otherwise. -/
theorem responseIf_cons (q : Outcome → Bool) (errs errs' : List (Option LocationError))
    (hlen : pre.length + (item :: items).length = c.items.length)
    (herrs : items = [] → errs = errs') :
    c.responseIf (q item && c.IsLast pre.length) errs ++ c.responseIf (items.getLast?.any q) errs' =
      c.responseIf ((item :: items).getLast?.any q) errs' := by
  rw [length_cons] at hlen
  cases items with
  | nil =>
    have hlast : c.IsLast pre.length := by
      rw [length_nil] at hlen
      rw [IsLast]
      omega
    simp [hlast, herrs rfl]
  | cons item' items =>
    have hlast : ¬c.IsLast pre.length := by
      rw [length_cons] at hlen
      rw [IsLast]
      omega
    simp [hlast]

/-- The calls come first: all ids are looked up, and if the last one is not known, the response is
sent. -/
theorem drain_calls (items : List Outcome) (pre : List (Option LocationError)) (rest : List Entry)
    (responses : List (List ℕ × List (Option LocationError)))
    (hlen : pre.length + items.length = c.items.length) :
    c.drain items.length
      ⟨pre ++ items.map (fun _ ↦ none), callsFrom pre.length items ++ rest, responses⟩ =
      ⟨pre ++ items.map c.first, rest ++ c.enginesFrom pre.length items,
        responses ++
          c.responseIf (items.getLast?.any (¬c.Reaches ·)) (pre ++ items.map c.first)⟩ := by
  induction items generalizing pre rest responses with
  | nil => simp [drain, callsFrom, enginesFrom]
  | cons item items ih =>
    have hpre : (pre ++ [c.first item]).length = pre.length + 1 := by simp
    have hlen' : (pre ++ [c.first item]).length + items.length = c.items.length := by
      rw [hpre, ← hlen, length_cons]
      omega
    have hih := ih (pre ++ [c.first item])
      (rest ++ if c.Reaches item then [.engine pre.length item] else [])
      (responses ++ c.responseIf (¬c.Reaches item && c.IsLast pre.length)
        ((pre ++ [c.first item]) ++ items.map fun _ ↦ none)) hlen'
    have hcalls : callsFrom pre.length (item :: items) ++ rest =
        .call pre.length item :: (callsFrom (pre.length + 1) items ++ rest) := rfl
    have htail := responseIf_cons (¬c.Reaches ·)
      ((pre ++ [c.first item]) ++ items.map fun _ ↦ none)
      ((pre ++ [c.first item]) ++ items.map c.first) hlen (by rintro rfl; rfl)
    rw [hpre] at hih
    rw [hcalls, length_cons, map_cons, drain_call, append_assoc (callsFrom _ _), hih,
      append_assoc responses, htail, enginesFrom]
    simp

/-- Then the requests come back, and the response is sent with the last of them if it is for the
last item. -/
theorem drain_engines (items : List Outcome) (pre : List (Option LocationError))
    (responses : List (List ℕ × List (Option LocationError)))
    (hlen : pre.length + items.length = c.items.length) :
    c.drain (c.enginesFrom pre.length items).length
      ⟨pre ++ items.map c.first, c.enginesFrom pre.length items, responses⟩ =
      ⟨pre ++ items.map c.final, [],
        responses ++ c.responseIf
          (items.getLast?.any fun item ↦ c.Reaches item && c.callbacks.reports item.result)
          (pre ++ items.map c.final)⟩ := by
  induction items generalizing pre responses with
  | nil => simp [drain, enginesFrom]
  | cons item items ih =>
    have hpre : (pre ++ [c.final item]).length = pre.length + 1 := by simp
    have hlen' : (pre ++ [c.final item]).length + items.length = c.items.length := by
      rw [hpre, ← hlen, length_cons]
      omega
    have hih := fun responses ↦ ih (pre ++ [c.final item]) responses hlen'
    have htail := responseIf_cons (fun item ↦ c.Reaches item && c.callbacks.reports item.result)
      ((pre ++ [c.final item]) ++ items.map c.first)
      ((pre ++ [c.final item]) ++ items.map c.final) hlen (by rintro rfl; rfl)
    rw [hpre] at hih
    by_cases hreach : c.Reaches item
    · simp only [hreach, decide_true, Bool.true_and] at htail
      rw [enginesFrom, if_pos hreach, singleton_append, length_cons, map_cons,
        drain_engine hreach, hih, append_assoc responses, htail]
      simp
    · have hfinal : c.final item = c.first item := if_neg fun h ↦ hreach h.1
      simp only [hreach, decide_false, Bool.false_and, responseIf_false, nil_append] at htail
      rw [enginesFrom, if_neg hreach, nil_append, map_cons, map_cons, ← hfinal]
      have hrest := hih responses
      rw [htail] at hrest
      simpa using hrest

/-- The command in the end. -/
theorem finish_eq (harrays : (c.callbacks.needsArrays && !c.arrays) = false) :
    c.finish = ⟨c.items.map c.final, [],
      c.responseIf (c.items.getLast?.any (¬c.Reaches ·)) (c.items.map c.first) ++
        c.responseIf
          (c.items.getLast?.any fun item ↦ c.Reaches item && c.callbacks.reports item.result)
          (c.items.map c.final)⟩ := by
  have hcalls := drain_calls c.items [] [] [] (Nat.zero_add _)
  have hengines := drain_engines c.items []
    (c.responseIf (c.items.getLast?.any (¬c.Reaches ·)) (c.items.map c.first)) (Nat.zero_add _)
  simp only [nil_append, List.append_nil, length_nil] at hcalls hengines
  have hle := length_enginesFrom_le (c := c) 0 c.items
  have hfuel : 2 * c.items.length = c.items.length + (c.enginesFrom 0 c.items).length +
      (c.items.length - (c.enginesFrom 0 c.items).length) := by omega
  have hstart : c.start = ⟨c.items.map fun _ ↦ none, callsFrom 0 c.items, []⟩ := by
    rw [start, harrays]
    rfl
  rw [finish, hstart, hfuel, drain_add, drain_add, hcalls, hengines, drain_of_queue_nil _ rfl]

/-- A command without its arrays is not answered. -/
theorem finish_of_missing (harrays : (c.callbacks.needsArrays && !c.arrays) = true) :
    c.finish.responses = [] := by
  have hstart : c.start = ⟨c.items.map fun _ ↦ some .invalidParameter, [], []⟩ := by
    rw [start, harrays]
    rfl
  rw [finish, hstart, drain_of_queue_nil _ rfl]

/-! ## When a command is answered -/

/-- The errors after the lookups are the right ones if the engine does all it is asked for. -/
theorem first_eq_iff (harrays : (c.callbacks.needsArrays && !c.arrays) = false)
    (hlooks : c.callbacks.looksUp = true) :
    c.first item = some (c.expected item) ↔ (c.Reaches item → item.result = .success) := by
  rw [first, expected, if_pos hlooks, harrays, Option.some_inj]
  cases hknown : item.known with
  | true =>
    have hreach : c.Reaches item := fun _ ↦ hknown
    simp [hreach, eq_comm]
  | false =>
    have hreach : ¬c.Reaches item := by simp [Reaches, hlooks, hknown]
    simp [hreach]

/-- The errors in the end are the right ones if each is recorded, or a success. -/
theorem final_eq_iff (harrays : (c.callbacks.needsArrays && !c.arrays) = false) :
    c.final item = some (c.expected item) ↔
      (c.Reaches item → c.callbacks.records item.lock item.result = true ∨
        c.callbacks.looksUp = true ∧ item.result = .success) := by
  by_cases hreach : c.Reaches item
  · cases hrec : c.callbacks.records item.lock item.result with
    | true => simp [final, expected, harrays, hreach, hrec]
    | false =>
      have hfinal : c.final item = c.first item := if_neg fun h ↦ by simp [hrec] at h
      rw [hfinal]
      cases hlooks : c.callbacks.looksUp with
      | true => simpa using first_eq_iff harrays hlooks
      | false => simp [first, hlooks, hreach]
  · have hlooks : c.callbacks.looksUp = true := by
      by_contra hlooks
      exact hreach fun h ↦ absurd h hlooks
    have hfinal : c.final item = c.first item := if_neg fun h ↦ hreach h.1
    rw [hfinal, first_eq_iff harrays hlooks]
    simp [hreach]

theorem responseIf_eq_iff {due : Bool} (f g : Outcome → Option LocationError) :
    c.responseIf due (c.items.map f) = [(c.items.map (·.id), c.items.map g)] ↔
      c.registered = true ∧ due = true ∧ ∀ item ∈ c.items, f item = g item := by
  rw [responseIf]
  by_cases h : (c.registered && due) = true
  · rw [if_pos h]
    rw [Bool.and_eq_true] at h
    simp only [h, List.cons.injEq, Prod.mk.injEq, true_and, and_true, map_inj_left]
  · rw [if_neg h]
    rw [Bool.and_eq_true] at h
    simp only [nil_eq, reduceCtorEq, false_iff]
    exact fun h' ↦ h ⟨h'.1, h'.2.1⟩

/-- The response comes with the answer for the last item if the engine is asked for it. -/
theorem answered_iff_of_lastReaches (harrays : (c.callbacks.needsArrays && !c.arrays) = false)
    (hlast : c.items.getLast? = some item) (hreach : c.Reaches item) :
    c.Answered ↔ c.registered = true ∧ c.callbacks.reports item.result = true ∧
      ∀ item ∈ c.items, c.Reaches item → c.callbacks.records item.lock item.result = true ∨
        c.callbacks.looksUp = true ∧ item.result = .success := by
  rw [Answered, finish_eq harrays]
  simp only [hlast, Option.any_some, hreach, not_true_eq_false, decide_false, responseIf_false,
    nil_append, decide_true, Bool.true_and, true_and, responseIf_eq_iff, final_eq_iff harrays]

/-- It comes when the ids have been looked up otherwise. -/
theorem answered_iff_of_not_lastReaches (harrays : (c.callbacks.needsArrays && !c.arrays) = false)
    (hlast : c.items.getLast? = some item) (hreach : ¬c.Reaches item) :
    c.Answered ↔ c.registered = true ∧ c.AllSucceed := by
  have hlooks : c.callbacks.looksUp = true := by
    by_contra hlooks
    exact hreach fun h ↦ absurd h hlooks
  rw [Answered, finish_eq harrays]
  simp only [hlast, Option.any_some, hreach, not_false_eq_true, decide_true, decide_false,
    Bool.false_and, responseIf_false, List.append_nil, true_and, responseIf_eq_iff,
    first_eq_iff harrays hlooks, AllSucceed]

/-- For every command with an item: it is answered as it should be under exactly this condition. -/
theorem answered_iff (hcount : 1 ≤ c.items.length) : c.Answered ↔ c.Regular := by
  obtain ⟨last, hlast⟩ : ∃ last, c.items.getLast? = some last :=
    Option.isSome_iff_exists.mp (getLast?_isSome.mpr (ne_nil_of_length_pos hcount))
  have hlastReaches : c.LastReaches ↔ c.Reaches last := by simp [LastReaches, hlast]
  cases harrays : c.callbacks.needsArrays && !c.arrays with
  | true =>
    have hnot : ¬c.Answered := fun h ↦ by simp [Answered, finish_of_missing harrays] at h
    obtain ⟨hneeds, hmissing⟩ : c.callbacks.needsArrays = true ∧ c.arrays = false := by
      simpa using harrays
    refine iff_of_false hnot fun hregular ↦ ?_
    rw [Regular] at hregular
    rw [callbacks] at hneeds
    cases hkind : c.kind with
    | add => simp [hkind, hmissing] at hregular
    | modify => simp [hkind, hmissing] at hregular
    | remove => simp [hkind, Kind.callbacks, removeGeofencesCommand] at hneeds
    | pause => simp [hkind, Kind.callbacks, pauseGeofencesCommand] at hneeds
    | resume => simp [hkind, Kind.callbacks, resumeGeofencesCommand] at hneeds
  | false =>
    by_cases hreach : c.Reaches last
    · have hmem : last ∈ c.items := mem_of_getLast? hlast
      rw [answered_iff_of_lastReaches harrays hlast hreach, Regular, hlastReaches, callbacks]
      rw [callbacks] at harrays
      refine and_congr_right fun _ ↦ ?_
      cases hkind : c.kind with
      | add =>
        rw [hkind] at harrays
        simpa [Kind.callbacks, addGeofencesCommand] using harrays
      | remove => simp [Kind.callbacks, removeGeofencesCommand, hreach]
      | pause => simp [Kind.callbacks, pauseGeofencesCommand, hreach]
      | resume =>
        simp only [Kind.callbacks, resumeGeofencesCommand, decide_eq_true_eq, true_and, or_self,
          AllSucceed]
        exact ⟨fun h ↦ h.2, fun h ↦ ⟨h last hmem hreach, h⟩⟩
      | modify =>
        rw [hkind] at harrays
        have hgiven : c.arrays = true := by
          simpa [Kind.callbacks, modifyGeofencesCommand] using harrays
        simp only [Kind.callbacks, modifyGeofencesCommand, decide_eq_true_eq, true_and, hgiven,
          hreach, AllSucceed]
        constructor
        · intro h
          refine Or.inr fun item hitem hr ↦ ?_
          rcases h item hitem hr with (hlock | hres) | hres
          · exact Or.inr hlock
          · exact Or.inl hres
          · exact Or.inl hres
        · rintro (h | h) item hitem hr
          · exact Or.inr (h item hitem hr)
          · exact (h item hitem hr).elim Or.inr fun hlock ↦ Or.inl (Or.inl hlock)
    · rw [answered_iff_of_not_lastReaches harrays hlast hreach, Regular, hlastReaches]
      rw [callbacks] at harrays
      refine and_congr_right fun _ ↦ ?_
      cases hkind : c.kind with
      | add =>
        exact absurd (fun h ↦ by simp [callbacks, hkind, Kind.callbacks, addGeofencesCommand] at h)
          hreach
      | remove => simp [hreach]
      | pause => simp [hreach]
      | resume => exact Iff.rfl
      | modify =>
        rw [hkind] at harrays
        have hgiven : c.arrays = true := by
          simpa [Kind.callbacks, modifyGeofencesCommand] using harrays
        simp [hgiven, hreach]

/-- A removal of three geofences of which the engine knows one no more, and the client another. -/
theorem answered_iff_three_items :
    Command.Answered ⟨.remove, true, [⟨10, true, .generalFailure, .enabled⟩,
      ⟨11, false, .success, .enabled⟩, ⟨12, true, .success, .enabled⟩], true⟩ :=
  (answered_iff (by decide)).mpr ⟨rfl, Or.inl (by decide)⟩

/-- The last id is not known: the response says that the first geofence was removed, before the
engine has answered that it was not. -/
theorem not_all_answered :
    ¬∀ c : Command, 1 ≤ c.items.length → c.registered = true → c.Answered := by
  intro h
  have hanswered := h ⟨.remove, true, [⟨10, true, .generalFailure, .enabled⟩,
    ⟨11, false, .success, .enabled⟩], true⟩ (by decide) rfl
  revert hanswered
  decide

end Command

end MataDevice.Geofence
