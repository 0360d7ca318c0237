import Mathlib.Data.List.TakeWhile
import MataDevice.Lib.History
import MataDevice.MsgQueue.MsgTask

/-!
# What becomes of a message

The messages should be processed in the order in which they were sent, each at most once, and every
message that was handed to `sendMsg` should be deleted once, by the thread after it has processed it
or with the queue.

The messages are always where they should be: those that were sent are, in their order, the ones
that have been processed, the one that the thread has in its hands, the ones in the queue and the
ones that were destroyed with it. But a message belongs to nobody if `msg_q_snd` refuses it, because
the queue has been unblocked or because there is no memory for an element: `sendMsg` ignores the
result, and the message is never deleted.
-/

namespace MataDevice.MsgQueue

open Chain List
open Option (some_inj bind_eq_bind bind_some map_eq_some_iff)

variable {es : List (ℕ × ListData ℕ Dealloc)} {q : MsgQ}

/-! ## The queue -/

/-- The messages in the list, in the order in which they were sent. -/
def queued (es : List (ℕ × ListData ℕ Dealloc)) : List ℕ := (es.map fun p ↦ p.2.dataPtr).reverse

theorem queued_cons (p : ℕ × ListData ℕ Dealloc) : queued (p :: es) = queued es ++ [p.2.dataPtr] := by
  rw [queued, map_cons, reverse_cons, ← queued]

theorem queued_concat (p : ℕ × ListData ℕ Dealloc) :
    queued (es ++ [p]) = p.2.dataPtr :: queued es := by
  rw [queued, map_append, reverse_append, ← queued]
  rfl

/-- `msg_q_snd` on a queue that has not been unblocked. -/
theorem msgQSnd_of (hq : q.msgList = .of es) (hblocked : q.unblocked = false) {addr msg : ℕ}
    (h : Apart ((addr, ⟨msg, some .locMsgDestroy⟩) :: es)) :
    msgQSnd q (some addr) (some msg) .locMsgDestroy
      = some ({ q with msgList := .of ((addr, ⟨msg, some .locMsgDestroy⟩) :: es) }, .success) := by
  have hadd := linkedListAdd_of h
  rw [msgQSnd, if_neg (by simp), hblocked, hq, hadd]
  rfl

/-- `msg_q_snd` that refuses a message leaves the queue as it is. -/
theorem msgQSnd_refused (msg : ℕ) {malloc : Option ℕ} (h : q.unblocked = true ∨ malloc = none) :
    ∃ err, err ≠ .success ∧ msgQSnd q malloc (some msg) .locMsgDestroy = some (q, err) := by
  rw [msgQSnd, if_neg (by simp)]
  by_cases hunblocked : q.unblocked = true
  · exact ⟨.unavailableResource, by simp, if_pos hunblocked⟩
  · obtain rfl := h.resolve_left hunblocked
    exact ⟨.failureGeneral, by simp, if_neg hunblocked⟩

/-- `msg_q_rcv` waits on an empty queue. -/
theorem msgQRcvLoop_of_nil (hq : q.msgList = .of []) :
    msgQRcvLoop q = some (q, if q.unblocked then .exited else .waiting false) := by
  obtain ⟨msgList, unblocked⟩ := q
  obtain rfl : msgList = .of [] := hq
  cases unblocked <;> rfl

/-- `msg_q_rcv` takes the message that was sent first. -/
theorem msgQRcvLoop_of_concat {p : ℕ × ListData ℕ Dealloc} (hq : q.msgList = .of (es ++ [p]))
    (h : Apart (es ++ [p])) :
    msgQRcvLoop q = some ({ q with msgList := .of es }, .received p.2.dataPtr) := by
  have hempty : linkedListEmpty q.msgList = false := by
    rw [← Bool.not_eq_true, hq, linkedListEmpty_of]
    simp
  rw [msgQRcvLoop, hempty, if_neg (by simp), hq, linkedListRemove_of h]
  rfl

/-- The messages that are freed, the last one first. -/
theorem linkedListFlush_of_locMsgDestroy (h : Apart es)
    (hdealloc : ∀ p ∈ es, p.2.deallocFunc = some .locMsgDestroy) :
    linkedListFlush (.of es) = some (.of [], (queued es).reverse.map (.locMsgDestroy, ·)) := by
  rw [linkedListFlush_of h, queued, reverse_reverse, map_map]
  congr 2
  rw [map_eq_flatMap]
  refine flatMap_congr fun p hp ↦ ?_
  rw [hdealloc p hp]
  rfl

/-! ## Histories -/

variable {hist : List (Item Event Output)} {s : MsgTask}

def Event.sent : Event → Option ℕ
  | .sendMsg msg _ => some msg
  | _ => none

/-- The message, if there is memory for its element. -/
def Event.stored : Event → Option ℕ
  | .sendMsg msg (some _) => some msg
  | _ => none

def Output.accepted : Output → Option ℕ
  | .returned msg .success => some msg
  | _ => none

def Output.processed : Output → Option ℕ
  | .proc msg => some msg
  | _ => none

def Output.deleted : Output → Option ℕ
  | .delete msg => some msg
  | _ => none

def Output.destroyed : Output → Option ℕ
  | .destroy msg => some msg
  | _ => none

/-- The messages that were handed to `sendMsg`. -/
def sentOf (hist : List (Item Event Output)) : List ℕ := (eventsOf hist).filterMap Event.sent

/-- The messages that were sent in time: before the queue was unblocked, and with memory for their
elements. -/
def timelyOf (hist : List (Item Event Output)) : List ℕ :=
  ((eventsOf hist).takeWhile (· ≠ .interrupt)).filterMap Event.stored

/-- The messages that `msg_q_snd` has accepted. -/
def acceptedOf (hist : List (Item Event Output)) : List ℕ := (outsOf hist).filterMap Output.accepted

def processedOf (hist : List (Item Event Output)) : List ℕ := (outsOf hist).filterMap Output.processed

/-- The messages that `run` has deleted. -/
def deletedOf (hist : List (Item Event Output)) : List ℕ := (outsOf hist).filterMap Output.deleted

/-- The messages that were destroyed with the queue. -/
def destroyedOf (hist : List (Item Event Output)) : List ℕ := (outsOf hist).filterMap Output.destroyed

theorem sentOf_append_sendMsg (msg : ℕ) (malloc : Option ℕ) (outs : List Output) :
    sentOf (hist ++ entry (.sendMsg msg malloc) outs) = sentOf hist ++ [msg] := by
  rw [sentOf, eventsOf_append_entry, filterMap_append, ← sentOf]
  rfl

theorem sentOf_append_of_none {e : Event} (h : e.sent = none) (outs : List Output) :
    sentOf (hist ++ entry e outs) = sentOf hist := by
  rw [sentOf, eventsOf_append_entry, filterMap_append, ← sentOf, filterMap_cons_none h,
    filterMap_nil, List.append_nil]

theorem stored_of_sent {e : Event} (h : e.sent = none) : e.stored = none := by
  cases e with
  | sendMsg msg malloc => cases h
  | rcv | wake | spuriousWakeup | proc | delete | interrupt | flush | destroy => rfl

theorem timelyOf_append_of_not_mem (h : .interrupt ∉ eventsOf hist) (e : Event)
    (outs : List Output) :
    timelyOf (hist ++ entry e outs) = timelyOf hist ++ [e].filterMap Event.stored := by
  have hall : ∀ e ∈ eventsOf hist, decide (e ≠ .interrupt) = true := fun e he ↦
    decide_eq_true fun heq ↦ h (heq ▸ he)
  rw [timelyOf, eventsOf_append_entry, takeWhile_append_of_pos hall, timelyOf,
    takeWhile_eq_self_iff.mpr hall, filterMap_append]
  congr 1
  by_cases he : e = .interrupt
  · rw [he]
    rfl
  · rw [takeWhile_cons_of_pos (by simpa using he), takeWhile_nil]

theorem timelyOf_append_of_mem (h : .interrupt ∈ eventsOf hist) (e : Event) (outs : List Output) :
    timelyOf (hist ++ entry e outs) = timelyOf hist := by
  rw [timelyOf, eventsOf_append_entry, takeWhile_append, if_neg, ← timelyOf]
  intro hlen
  have hself := (takeWhile_sublist _).eq_of_length hlen
  simpa using takeWhile_eq_self_iff.mp hself _ h

theorem timelyOf_append_of_none {e : Event} (h : e.stored = none) (outs : List Output) :
    timelyOf (hist ++ entry e outs) = timelyOf hist := by
  by_cases hmem : .interrupt ∈ eventsOf hist
  · exact timelyOf_append_of_mem hmem e outs
  · rw [timelyOf_append_of_not_mem hmem, filterMap_cons_none h, filterMap_nil,
      List.append_nil]

theorem timelyOf_sublist (hist : List (Item Event Output)) :
    (timelyOf hist).Sublist (sentOf hist) := by
  refine ((takeWhile_sublist _).filterMap Event.stored).trans ?_
  rw [sentOf]
  induction eventsOf hist with
  | nil => exact List.Sublist.refl _
  | cons e es ih =>
    rw [filterMap_cons, filterMap_cons]
    match e with
    | .sendMsg msg (some addr) => exact ih.cons_cons msg
    | .sendMsg msg none => exact ih.cons msg
    | .rcv | .wake | .spuriousWakeup | .proc | .delete | .interrupt | .flush | .destroy => exact ih

@[simp] theorem acceptedOf_append (e : Event) (outs : List Output) :
    acceptedOf (hist ++ entry e outs) = acceptedOf hist ++ outs.filterMap Output.accepted := by
  rw [acceptedOf, outsOf_append_entry, filterMap_append, ← acceptedOf]

@[simp] theorem processedOf_append (e : Event) (outs : List Output) :
    processedOf (hist ++ entry e outs) = processedOf hist ++ outs.filterMap Output.processed := by
  rw [processedOf, outsOf_append_entry, filterMap_append, ← processedOf]

@[simp] theorem deletedOf_append (e : Event) (outs : List Output) :
    deletedOf (hist ++ entry e outs) = deletedOf hist ++ outs.filterMap Output.deleted := by
  rw [deletedOf, outsOf_append_entry, filterMap_append, ← deletedOf]

@[simp] theorem destroyedOf_append (e : Event) (outs : List Output) :
    destroyedOf (hist ++ entry e outs) = destroyedOf hist ++ outs.filterMap Output.destroyed := by
  rw [destroyedOf, outsOf_append_entry, filterMap_append, ← destroyedOf]

@[simp] theorem processed_returned (msg : ℕ) (err : MsgQErr) :
    [Output.returned msg err].filterMap Output.processed = [] := rfl

@[simp] theorem deleted_returned (msg : ℕ) (err : MsgQErr) :
    [Output.returned msg err].filterMap Output.deleted = [] := rfl

@[simp] theorem destroyed_returned (msg : ℕ) (err : MsgQErr) :
    [Output.returned msg err].filterMap Output.destroyed = [] := rfl

theorem accepted_returned {msg : ℕ} {err : MsgQErr} (h : err ≠ .success) :
    [Output.returned msg err].filterMap Output.accepted = [] := by
  cases err with
  | success => exact absurd rfl h
  | failureGeneral | invalidParameter | invalidHandle | unavailableResource | insufficientBuffer =>
    rfl

/-- The message that has been taken from the queue and not yet processed. -/
def Runner.inHand : Runner → List ℕ
  | .received msg => [msg]
  | _ => []

/-- The message that has been processed and not yet deleted. -/
def Runner.done : Runner → List ℕ
  | .processed msg => [msg]
  | _ => []

/-- The thread is out of its loop. -/
def Runner.out : Runner → Bool
  | .exited | .flushed | .destroyed => true
  | _ => false

/-- Where the messages are. -/
structure Accounted (hist : List (Item Event Output)) (s : MsgTask)
    (es : List (ℕ × ListData ℕ Dealloc)) : Prop where
  list : ∀ q, s.mQ = some q → q.msgList = .of es
  apart : Apart es
  dealloc : ∀ p ∈ es, p.2.deallocFunc = some .locMsgDestroy
  handed : s.handed = sentOf hist
  once : (sentOf hist).Nodup
  accepted : acceptedOf hist = timelyOf hist
  unblocked : ∀ q, s.mQ = some q → (q.unblocked = true ↔ .interrupt ∈ eventsOf hist)
  order : acceptedOf hist
    = processedOf hist ++ s.runner.inHand ++ queued es ++ (destroyedOf hist).reverse
  deletes : processedOf hist = deletedOf hist ++ s.runner.done
  out : s.runner.out = true → ∀ q, s.mQ = some q → q.unblocked = true
  destroys : destroyedOf hist ≠ [] → s.runner.out = true
  gone : s.runner = .destroyed → es = []
  asleep : s.runner = .waiting false → es = [] ∧ ∀ q, s.mQ = some q → q.unblocked = false

/-- A signal does not change what the thread has. -/
theorem Runner.signal_spec (r : Runner) :
    r.signal.inHand = r.inHand ∧ r.signal.done = r.done ∧ r.signal.out = r.out := by
  cases r <;> exact ⟨rfl, rfl, rfl⟩

theorem Runner.signal_or_spec {r r' : Runner} (h : r' = r ∨ r' = r.signal) :
    r'.inHand = r.inHand ∧ r'.done = r.done ∧ r'.out = r.out := by
  rcases h with rfl | rfl
  · exact ⟨rfl, rfl, rfl⟩
  · exact r.signal_spec

theorem Runner.nothing_of_out {r : Runner} (h : r.out = true) : r.inHand = [] ∧ r.done = [] := by
  cases r <;> first | exact ⟨rfl, rfl⟩ | cases h

theorem Runner.signal_ne_asleep (r : Runner) : r.signal ≠ .waiting false := by
  cases r <;> simp [Runner.signal]

theorem Runner.signal_eq_destroyed {r : Runner} (h : r.signal = .destroyed) : r = .destroyed := by
  cases r <;> simp_all [Runner.signal]

namespace Accounted

theorem initial : Accounted [] .initial [] where
  list := by
    rintro q hq
    obtain rfl := some_inj.mp hq
    rfl
  apart := nodup_nil
  dealloc := by simp
  handed := rfl
  once := nodup_nil
  accepted := rfl
  unblocked := by
    rintro q hq
    obtain rfl := some_inj.mp hq
    simp [msgQInit]
  order := rfl
  deletes := rfl
  out := by simp [MsgTask.initial, Runner.out]
  destroys := by simp [destroyedOf]
  gone := fun _ ↦ rfl
  asleep := by simp [MsgTask.initial]

variable (h : Accounted hist s es)
include h

theorem addrs (hq : s.mQ = some q) : s.addrs = es.map Prod.fst := by
  rw [MsgTask.addrs, hq, Option.elim_some, h.list q hq]
  exact map_fst_chain none none es

theorem once_concat {msg : ℕ} (hmsg : msg ∉ s.handed) :
    (sentOf hist ++ [msg]).Nodup := by
  rw [h.handed] at hmsg
  exact h.once.append (nodup_singleton _) (by simpa using hmsg)

/-- Nothing has been destroyed as long as the queue has not been unblocked. -/
theorem destroyedOf_eq_nil (hq : s.mQ = some q)
    (hblocked : q.unblocked = false) : s.runner.out = false ∧ destroyedOf hist = [] := by
  have hout : s.runner.out = false := by
    rw [← Bool.not_eq_true]
    intro hout
    exact absurd (h.out hout q hq) (by simp [hblocked])
  refine ⟨hout, by_contra fun hne ↦ ?_⟩
  rw [h.destroys hne] at hout
  cases hout

/-- A message that `msg_q_snd` accepts. -/
theorem sendMsg {msg addr : ℕ} (hq : s.mQ = some q)
    (hblocked : q.unblocked = false) (hmsg : msg ∉ s.handed)
    (hapart : Apart ((addr, ⟨msg, some .locMsgDestroy⟩) :: es)) :
    Accounted (hist ++ entry (.sendMsg msg (some addr)) [.returned msg .success])
      { mQ := some { q with msgList := .of ((addr, ⟨msg, some .locMsgDestroy⟩) :: es) }
        runner := s.runner.signal
        handed := s.handed ++ [msg] } ((addr, ⟨msg, some .locMsgDestroy⟩) :: es) := by
  obtain ⟨hout, hnone⟩ := h.destroyedOf_eq_nil hq hblocked
  obtain ⟨hhand, hdone, hsignal⟩ := s.runner.signal_spec
  have horder := h.order
  rw [hnone, reverse_nil, List.append_nil] at horder
  constructor
  · rintro q' hq'
    obtain rfl := some_inj.mp hq'
    rfl
  · exact hapart
  · intro p hp
    rcases mem_cons.mp hp with rfl | hp
    · rfl
    · exact h.dealloc p hp
  · rw [sentOf_append_sendMsg, h.handed]
  · rw [sentOf_append_sendMsg]
    exact h.once_concat hmsg
  · have hnot : .interrupt ∉ eventsOf hist := by
      rw [← h.unblocked q hq, hblocked]
      simp
    rw [acceptedOf_append, timelyOf_append_of_not_mem hnot, h.accepted]
    rfl
  · rintro q' hq'
    obtain rfl := some_inj.mp hq'
    simpa using h.unblocked q hq
  · simp [hhand, horder, hnone, queued_cons, Output.accepted]
  · simp [hdone, h.deletes]
  · intro hleft
    rw [hsignal, hout] at hleft
    cases hleft
  · intro hne
    rw [destroyedOf_append, hnone] at hne
    exact absurd rfl hne
  · intro hgone
    rw [Runner.signal_eq_destroyed hgone] at hout
    cases hout
  · intro hasleep
    exact absurd hasleep (Runner.signal_ne_asleep _)

variable {runner : Runner} {e : Event}

/-- A message that `msg_q_snd` refuses changes nothing. -/
theorem refused {msg : ℕ} {malloc : Option ℕ} {err : MsgQErr}
    (hq : s.mQ = some q) (hlate : q.unblocked = true ∨ malloc = none) (herr : err ≠ .success)
    (hmsg : msg ∉ s.handed)
    (hrunner : runner = s.runner ∨ runner = s.runner.signal) :
    Accounted (hist ++ entry (.sendMsg msg malloc) [.returned msg err])
      { s with runner := runner, handed := s.handed ++ [msg] } es := by
  obtain ⟨hhand, hdone, hout⟩ := Runner.signal_or_spec hrunner
  constructor
  · exact h.list
  · exact h.apart
  · exact h.dealloc
  · rw [sentOf_append_sendMsg, h.handed]
  · rw [sentOf_append_sendMsg]
    exact h.once_concat hmsg
  · rw [acceptedOf_append, accepted_returned herr, List.append_nil, h.accepted]
    rcases hlate with hunblocked | rfl
    · exact (timelyOf_append_of_mem ((h.unblocked q hq).mp hunblocked) _ _).symm
    · exact (timelyOf_append_of_none rfl _).symm
  · simpa using h.unblocked
  · rw [acceptedOf_append, accepted_returned herr]
    simpa [hhand] using h.order
  · simpa [hdone] using h.deletes
  · exact fun hleft ↦ h.out (hout ▸ hleft)
  · exact fun hne ↦ hout.trans (h.destroys (by simpa using hne))
  · rintro rfl
    rcases hrunner with hsame | hsignal
    · exact h.gone hsame.symm
    · exact h.gone (Runner.signal_eq_destroyed hsignal.symm)
  · rintro rfl
    rcases hrunner with hsame | hsignal
    · exact h.asleep hsame.symm
    · exact absurd hsignal.symm (Runner.signal_ne_asleep _)

/-- A step that sends nothing: the messages only move on. -/
theorem advance (he : e.sent = none) {s' : MsgTask}
    {es' : List (ℕ × ListData ℕ Dealloc)} {outs : List Output} (hhanded : s'.handed = s.handed)
    (hsub : es'.Sublist es) (hlist : ∀ q', s'.mQ = some q' → q'.msgList = .of es')
    (hunblocked : ∀ q', s'.mQ = some q' →
      (q'.unblocked = true ↔ .interrupt ∈ eventsOf hist ∨ .interrupt = e))
    (haccepted : outs.filterMap Output.accepted = [])
    (horder : outs.filterMap Output.processed ++ s'.runner.inHand ++ queued es'
      ++ (outs.filterMap Output.destroyed).reverse = s.runner.inHand ++ queued es)
    (hdone : s.runner.done ++ outs.filterMap Output.processed
      = outs.filterMap Output.deleted ++ s'.runner.done)
    (hout : s'.runner.out = true → ∀ q', s'.mQ = some q' → q'.unblocked = true)
    (hdestroys : destroyedOf hist ++ outs.filterMap Output.destroyed ≠ [] → s'.runner.out = true)
    (hgone : s'.runner = .destroyed → es' = [])
    (hasleep : s'.runner = .waiting false → es' = [] ∧ ∀ q', s'.mQ = some q' → q'.unblocked = false) :
    Accounted (hist ++ entry e outs) s' es' where
  list := hlist
  apart := h.apart.sublist (hsub.map _)
  dealloc := fun p hp ↦ h.dealloc p (hsub.subset hp)
  handed := by rw [sentOf_append_of_none he, hhanded, h.handed]
  once := by rw [sentOf_append_of_none he]; exact h.once
  accepted := by
    rw [timelyOf_append_of_none (stored_of_sent he), acceptedOf_append, haccepted, List.append_nil,
      h.accepted]
  unblocked := by simpa using hunblocked
  order := by
    rw [acceptedOf_append, haccepted, List.append_nil, h.order, append_assoc (processedOf hist),
      ← horder, processedOf_append, destroyedOf_append, reverse_append]
    simp only [append_assoc]
  deletes := by
    rw [processedOf_append, deletedOf_append, h.deletes, append_assoc, append_assoc, hdone]
  out := hout
  destroys := by simpa using hdestroys
  gone := hgone
  asleep := hasleep

/-- A step of the thread that leaves the queue alone. -/
theorem turn (he : e.sent = none) (hint : .interrupt ≠ e) {outs : List Output} (haccepted : outs.filterMap Output.accepted = [])
    (hhand : outs.filterMap Output.processed ++ runner.inHand = s.runner.inHand)
    (hdone : s.runner.done ++ outs.filterMap Output.processed
      = outs.filterMap Output.deleted ++ runner.done)
    (hnone : outs.filterMap Output.destroyed = [])
    (hin : s.runner.out = false)
    (hunblocked : runner.out = true → ∀ q, s.mQ = some q → q.unblocked = true)
    (hgone : runner ≠ .destroyed)
    (hasleep : runner = .waiting false → es = [] ∧ ∀ q, s.mQ = some q → q.unblocked = false) :
    Accounted (hist ++ entry e outs) { s with runner := runner } es := by
  refine h.advance he rfl (List.Sublist.refl _) h.list (fun q hq ↦ ?_) haccepted ?_ hdone hunblocked
    (fun hne ↦ ?_) (fun heq ↦ absurd heq hgone) hasleep
  · simpa [hint] using h.unblocked q hq
  · rw [hnone, ← hhand, reverse_nil, List.append_nil]
  · rw [hnone, List.append_nil] at hne
    rw [h.destroys hne] at hin
    cases hin

/-- `msg_q_rcv`, from a thread that has no message. -/
theorem rcvLoop (he : e.sent = none) (hint : .interrupt ≠ e)
    (hq : s.mQ = some q) (hhand : s.runner.inHand = []) (hdone : s.runner.done = [])
    (hin : s.runner.out = false) {q' : MsgQ}
    (hloop : msgQRcvLoop q = some (q', runner)) :
    ∃ es', Accounted (hist ++ entry e []) { s with mQ := some q', runner := runner } es' := by
  cases es using List.reverseRecOn with
  | nil =>
    rw [msgQRcvLoop_of_nil (h.list q hq)] at hloop
    obtain ⟨rfl, rfl⟩ := some_pair_inj hloop
    rw [← hq]
    refine ⟨[], h.turn he hint rfl ?_ ?_ rfl hin ?_ ?_ ?_⟩
    · rw [hhand]
      split <;> rfl
    · rw [hdone]
      split <;> rfl
    · rintro hleft q' hq'
      obtain rfl := some_inj.mp (hq.symm.trans hq')
      by_contra hblocked
      rw [if_neg hblocked] at hleft
      cases hleft
    · split <;> simp
    · rintro hasleep
      refine ⟨rfl, fun q' hq' ↦ ?_⟩
      obtain rfl := some_inj.mp (hq.symm.trans hq')
      rw [← Bool.not_eq_true]
      intro hunblocked
      rw [if_pos hunblocked] at hasleep
      cases hasleep
  | append_singleton es p =>
    rw [msgQRcvLoop_of_concat (h.list q hq) h.apart] at hloop
    obtain ⟨rfl, rfl⟩ := some_pair_inj hloop
    refine ⟨es, h.advance he rfl (sublist_append_left ..) ?_ ?_ rfl ?_ ?_ ?_ (fun hne ↦ ?_) ?_
      ?_⟩
    · rintro q' hq'
      obtain rfl := some_inj.mp hq'
      rfl
    · rintro q' hq'
      obtain rfl := some_inj.mp hq'
      simpa [hint] using h.unblocked q hq
    · rw [hhand, queued_concat]
      simp [Runner.inHand]
    · rw [hdone]
      rfl
    · intro hout
      cases hout
    · have hout := h.destroys (by simpa using hne)
      rw [hin] at hout
      cases hout
    · intro hgone
      cases hgone
    · intro hasleep
      cases hasleep

theorem interrupt (hq : s.mQ = some q) :
    Accounted (hist ++ entry .interrupt [])
      { s with
        mQ := some { q with unblocked := true }
        runner := if q.unblocked then s.runner else s.runner.signal } es := by
  have hrunner := ite_eq_or_eq (q.unblocked = true) s.runner s.runner.signal
  obtain ⟨hhand, hdone, hout⟩ := Runner.signal_or_spec hrunner
  refine h.advance rfl rfl (List.Sublist.refl _) ?_ ?_ rfl ?_ ?_ ?_ (fun hne ↦ ?_) (fun hgone ↦ ?_)
    (fun hasleep ↦ ?_)
  · rintro q' hq'
    obtain rfl := some_inj.mp hq'
    exact h.list q hq
  · rintro q' hq'
    obtain rfl := some_inj.mp hq'
    simp
  · simp [hhand]
  · simp [hdone]
  · rintro - q' hq'
    obtain rfl := some_inj.mp hq'
    rfl
  · exact hout.trans (h.destroys (by simpa using hne))
  · dsimp only at hgone
    rcases hrunner with hsame | hsignal
    · exact h.gone (hsame.symm.trans hgone)
    · exact h.gone (Runner.signal_eq_destroyed (hsignal.symm.trans hgone))
  · -- a thread that is asleep is woken up
    dsimp only at hasleep
    split at hasleep
    · next hunblocked =>
      exact absurd ((h.asleep hasleep).2 q hq) (by simp [hunblocked])
    · exact absurd hasleep (Runner.signal_ne_asleep _)

/-- The list is emptied by a thread that is out of its loop. -/
theorem flush (he : e.sent = none) (hq : s.mQ = some q)
    (hout : s.runner.out = true) {s' : MsgTask} (hleft : s'.runner.out = true)
    (hhanded : s'.handed = s.handed)
    (hqueue : ∀ q', s'.mQ = some q' → q'.msgList = .of [] ∧ q'.unblocked = true) :
    Accounted (hist ++ entry e (MsgTask.destroys ((queued es).reverse.map (.locMsgDestroy, ·)))) s'
      [] := by
  obtain ⟨hhand, hdone⟩ := Runner.nothing_of_out hout
  obtain ⟨hhand', hdone'⟩ := Runner.nothing_of_out hleft
  have hquiet : ∀ (f : Output → Option ℕ), (∀ msg, f (.destroy msg) = none) →
      (MsgTask.destroys ((queued es).reverse.map (.locMsgDestroy, ·))).filterMap f = [] := by
    intro f hf
    simp [MsgTask.destroys, hf]
  have hdestroyed : (MsgTask.destroys ((queued es).reverse.map (.locMsgDestroy, ·))).filterMap
      Output.destroyed = (queued es).reverse := by
    simp [MsgTask.destroys, filterMap_map, Function.comp_def, Output.destroyed]
  refine h.advance he hhanded (nil_sublist _) (fun q' hq' ↦ (hqueue q' hq').1) (fun q' hq' ↦ ?_)
    (hquiet _ fun _ ↦ rfl) ?_ ?_ (fun _ q' hq' ↦ (hqueue q' hq').2) (fun _ ↦ hleft) (fun _ ↦ rfl)
    (fun hasleep ↦ ?_)
  · simp [(hqueue q' hq').2, (h.unblocked q hq).mp (h.out hout q hq)]
  · rw [hquiet _ fun _ ↦ rfl, hdestroyed, hhand, hhand', reverse_reverse]
    rfl
  · rw [hquiet _ fun _ ↦ rfl, hquiet _ fun _ ↦ rfl, hdone, hdone']
  · rw [hasleep] at hleft
    cases hleft

/-! ## Whole runs -/

variable {s' : MsgTask} {outs : List Output}

/-- A message in time is accepted, any other one is refused. -/
theorem step_sendMsg {msg : ℕ} {malloc : Option ℕ}
    (hs : s.step (.sendMsg msg malloc) = some (s', outs)) :
    ∃ es', Accounted (hist ++ entry (.sendMsg msg malloc) outs) s' es' := by
  cases hq : s.mQ with
  | none =>
    rw [MsgTask.step, hq] at hs
    cases hs
  | some q =>
    rw [MsgTask.step, hq, bind_eq_bind, bind_some] at hs
    split at hs
    · cases hs
    · next hnew =>
      obtain ⟨hmsg, haddr⟩ := not_or.mp hnew
      by_cases hlate : q.unblocked = true ∨ malloc = none
      · obtain ⟨err, herr, hsnd⟩ := msgQSnd_refused msg hlate
        rw [hsnd, bind_eq_bind, bind_some] at hs
        obtain ⟨rfl, rfl⟩ := some_pair_inj hs
        rw [← hq]
        exact ⟨es, h.refused hq hlate herr hmsg (ite_eq_or_eq ..)⟩
      · obtain ⟨hblocked, hmalloc⟩ := not_or.mp hlate
        rw [Bool.not_eq_true] at hblocked
        obtain ⟨addr, rfl⟩ := Option.ne_none_iff_exists'.mp hmalloc
        have hfresh : addr ∉ es.map Prod.fst := by simpa [h.addrs hq] using haddr
        have hapart : Apart ((addr, ⟨msg, some .locMsgDestroy⟩) :: es) :=
          nodup_cons.mpr ⟨hfresh, h.apart⟩
        have hsignal : (if q.unblocked then s.runner else s.runner.signal) = s.runner.signal :=
          if_neg (by simp [hblocked])
        rw [msgQSnd_of (h.list q hq) hblocked hapart, bind_eq_bind, bind_some,
          hsignal] at hs
        obtain ⟨rfl, rfl⟩ := some_pair_inj hs
        exact ⟨_, h.sendMsg hq hblocked hmsg hapart⟩

theorem step_rcv (hs : s.step .rcv = some (s', outs)) :
    ∃ es', Accounted (hist ++ entry .rcv outs) s' es' := by
  rw [MsgTask.step] at hs
  split at hs
  · next q hready hq =>
    obtain ⟨⟨q', runner⟩, hrcv, heq⟩ := map_eq_some_iff.mp hs
    obtain ⟨rfl, rfl⟩ := Prod.mk.inj heq
    rw [msgQRcv] at hrcv
    split at hrcv
    · next hunblocked =>
      obtain ⟨rfl, rfl⟩ := some_pair_inj hrcv
      rw [← hq]
      refine ⟨es, h.turn rfl (by simp) rfl (by rw [hready]; rfl) (by rw [hready]; rfl) rfl
        (by rw [hready]; rfl) ?_ (by simp) (by simp)⟩
      rintro - q' hq'
      obtain rfl := some_inj.mp (hq.symm.trans hq')
      exact hunblocked
    · exact h.rcvLoop rfl (by simp) hq (by rw [hready]; rfl) (by rw [hready]; rfl)
        (by rw [hready]; rfl) hrcv
  · cases hs

theorem step_wake (hs : s.step .wake = some (s', outs)) :
    ∃ es', Accounted (hist ++ entry .wake outs) s' es' := by
  rw [MsgTask.step] at hs
  split at hs
  · next q hwoken hq =>
    obtain ⟨⟨q', runner⟩, hloop, heq⟩ := map_eq_some_iff.mp hs
    obtain ⟨rfl, rfl⟩ := Prod.mk.inj heq
    exact h.rcvLoop rfl (by simp) hq (by rw [hwoken]; rfl) (by rw [hwoken]; rfl)
      (by rw [hwoken]; rfl) hloop
  · cases hs

theorem step_spuriousWakeup (hs : s.step .spuriousWakeup = some (s', outs)) :
    ∃ es', Accounted (hist ++ entry .spuriousWakeup outs) s' es' := by
  rw [MsgTask.step] at hs
  split at hs
  · next hwaiting =>
    obtain ⟨rfl, rfl⟩ := some_pair_inj hs
    refine ⟨es, h.turn rfl (by simp) rfl (by rw [hwaiting]; rfl) (by rw [hwaiting]; rfl) rfl
      (by rw [hwaiting]; rfl) (fun hout ↦ ?_) (by simp) (by simp)⟩
    cases hout
  · cases hs

theorem step_proc (hs : s.step .proc = some (s', outs)) :
    ∃ es', Accounted (hist ++ entry .proc outs) s' es' := by
  rw [MsgTask.step] at hs
  split at hs
  · next msg hreceived =>
    obtain ⟨rfl, rfl⟩ := some_pair_inj hs
    refine ⟨es, h.turn rfl (by simp) rfl (by rw [hreceived]; rfl) (by rw [hreceived]; rfl) rfl
      (by rw [hreceived]; rfl) (fun hout ↦ ?_) (by simp) (by simp)⟩
    cases hout
  · cases hs

theorem step_delete (hs : s.step .delete = some (s', outs)) :
    ∃ es', Accounted (hist ++ entry .delete outs) s' es' := by
  rw [MsgTask.step] at hs
  split at hs
  · next msg hprocessed =>
    obtain ⟨rfl, rfl⟩ := some_pair_inj hs
    refine ⟨es, h.turn rfl (by simp) rfl (by rw [hprocessed]; rfl) (by rw [hprocessed]; rfl) rfl
      (by rw [hprocessed]; rfl) (fun hout ↦ ?_) (by simp) (by simp)⟩
    cases hout
  · cases hs

theorem step_flush (hs : s.step .flush = some (s', outs)) :
    ∃ es', Accounted (hist ++ entry .flush outs) s' es' := by
  rw [MsgTask.step] at hs
  split at hs
  · next q hexited hq =>
    have hout : s.runner.out = true := by rw [hexited]; rfl
    have hflush := linkedListFlush_of_locMsgDestroy h.apart h.dealloc
    rw [msgQFlush, h.list q hq, hflush] at hs
    obtain ⟨rfl, rfl⟩ := some_pair_inj hs
    refine ⟨[], h.flush rfl hq hout rfl rfl ?_⟩
    rintro q' hq'
    obtain rfl := some_inj.mp hq'
    exact ⟨rfl, h.out hout q hq⟩
  · cases hs

theorem step_destroy (hs : s.step .destroy = some (s', outs)) :
    ∃ es', Accounted (hist ++ entry .destroy outs) s' es' := by
  rw [MsgTask.step] at hs
  split at hs
  · next q hflushed hq =>
    have hout : s.runner.out = true := by rw [hflushed]; rfl
    have hflush := linkedListFlush_of_locMsgDestroy h.apart h.dealloc
    rw [h.list q hq, hflush] at hs
    obtain ⟨rfl, rfl⟩ := some_pair_inj hs
    refine ⟨[], h.flush rfl hq hout rfl rfl ?_⟩
    rintro q' hq'
    cases hq'
  · cases hs

theorem step (hs : s.step e = some (s', outs)) :
    ∃ es', Accounted (hist ++ entry e outs) s' es' := by
  cases e with
  | sendMsg msg malloc => exact h.step_sendMsg hs
  | rcv => exact h.step_rcv hs
  | wake => exact h.step_wake hs
  | spuriousWakeup => exact h.step_spuriousWakeup hs
  | proc => exact h.step_proc hs
  | delete => exact h.step_delete hs
  | interrupt =>
    obtain ⟨q, hq, heq⟩ := map_eq_some_iff.mp hs
    obtain ⟨rfl, rfl⟩ := Prod.mk.inj heq
    exact ⟨es, h.interrupt hq⟩
  | flush => exact h.step_flush hs
  | destroy => exact h.step_destroy hs

omit h in
theorem of_run {guard : MsgTask → Event → Prop} (h : Run MsgTask.step guard .initial hist s) :
    ∃ es, Accounted hist s es := by
  refine h.invariant (I := fun hist s ↦ ∃ es, Accounted hist s es) ⟨[], .initial⟩ ?_
  rintro hist s e s' outs ⟨es, hinv⟩ - hs
  exact hinv.step hs

theorem timelyOf_nodup : (timelyOf hist).Nodup :=
  h.once.sublist (timelyOf_sublist hist)

theorem processedOf_isPrefix : processedOf hist <+: timelyOf hist := by
  rw [← h.accepted, h.order, append_assoc, append_assoc]
  exact prefix_append ..

/-- What is deleted has been accepted. -/
theorem deleted_sublist :
    (deletedOf hist ++ (destroyedOf hist).reverse).Sublist (timelyOf hist) := by
  rw [← h.accepted, h.order, h.deletes]
  refine List.Sublist.append ?_ (List.Sublist.refl _)
  rw [append_assoc, append_assoc]
  exact sublist_append_left ..

theorem deleted_nodup : (deletedOf hist ++ destroyedOf hist).Nodup :=
  ((reverse_perm _).append_left _).nodup_iff.mp (h.timelyOf_nodup.sublist h.deleted_sublist)

/-- In the end, everything that was accepted has been deleted. -/
theorem deleted_perm (hend : s.runner = .destroyed) :
    processedOf hist = deletedOf hist ∧
      (deletedOf hist ++ destroyedOf hist).Perm (timelyOf hist) := by
  have hdeletes := h.deletes
  have horder := h.order
  rw [hend] at hdeletes horder
  rw [h.gone hend, h.accepted] at horder
  have hprocessed : processedOf hist = deletedOf hist := hdeletes.trans (List.append_nil _)
  refine ⟨hprocessed, ?_⟩
  have hall : timelyOf hist = deletedOf hist ++ (destroyedOf hist).reverse := by
    rw [horder, hprocessed]
    simp [Runner.inHand, queued]
  rw [hall]
  exact (reverse_perm _).symm.append_left _

end Accounted

/-- **Delivery.** In every run, the messages that were sent in time are processed in the order in
which they were sent, each at most once, and no message is deleted twice. A thread that sleeps and
has not been woken up has nothing to do. Once the queue is destroyed, the messages that were sent in
time have all been processed or destroyed with it, and a message that was handed to `sendMsg` has
been deleted exactly once if and only if it was sent in time. -/
theorem delivered_of_run (h : Run MsgTask.step (fun _ _ ↦ True) .initial hist s) :
    processedOf hist <+: timelyOf hist ∧ (timelyOf hist).Sublist (sentOf hist) ∧
      (processedOf hist).Nodup ∧ (deletedOf hist ++ destroyedOf hist).Nodup ∧
      (s.runner = .waiting false → ∀ q, s.mQ = some q →
        linkedListEmpty q.msgList = true ∧ q.unblocked = false) ∧
      (s.runner = .destroyed →
        (∀ msg ∈ timelyOf hist, msg ∈ processedOf hist ∨ msg ∈ destroyedOf hist) ∧
        ∀ msg ∈ sentOf hist,
          ((deletedOf hist ++ destroyedOf hist).count msg = 1 ↔ msg ∈ timelyOf hist)) := by
  obtain ⟨es, hinv⟩ := Accounted.of_run h
  refine ⟨hinv.processedOf_isPrefix, timelyOf_sublist hist,
    hinv.timelyOf_nodup.sublist hinv.processedOf_isPrefix.sublist, hinv.deleted_nodup,
    fun hasleep q hq ↦ ?_, fun hend ↦ ?_⟩
  · obtain ⟨rfl, hblocked⟩ := hinv.asleep hasleep
    rw [hinv.list q hq]
    exact ⟨linkedListEmpty_of.mpr rfl, hblocked q hq⟩
  · obtain ⟨hprocessed, hperm⟩ := hinv.deleted_perm hend
    constructor
    · intro msg hmsg
      rw [hprocessed]
      exact mem_append.mp (hperm.mem_iff.mpr hmsg)
    · intro msg _
      rw [hperm.count_eq, hinv.timelyOf_nodup.count]
      simp

/-- Two messages are processed, and a third one is destroyed with the queue. -/
theorem delivered_of_run_three :
    ∃ hist s, Run MsgTask.step (fun _ _ ↦ True) .initial hist s ∧ sentOf hist = [1, 2, 3] ∧
      processedOf hist = [1, 2] ∧ (deletedOf hist ++ destroyedOf hist).count 3 = 1 := by
  obtain ⟨hist, s, hrun, hend, hsent, hprocessed, htimely⟩ :=
    Run.exists_of_runEvents MsgTask.step (fun _ _ ↦ True) .initial
    [.rcv, .sendMsg 1 (some 10), .wake, .sendMsg 2 (some 20), .proc, .sendMsg 3 (some 10), .delete,
      .rcv, .proc, .interrupt, .delete, .rcv, .flush, .destroy]
    (fun hist s ↦ s.runner = .destroyed ∧ sentOf hist = [1, 2, 3] ∧
      processedOf hist = [1, 2] ∧ 3 ∈ timelyOf hist) (by decide +kernel)
  obtain ⟨-, -, -, -, -, hdelivered⟩ := delivered_of_run hrun
  exact ⟨hist, s, hrun, hsent, hprocessed,
    ((hdelivered hend).2 3 (by simp [hsent])).mpr htimely⟩

/-- A message that is sent after the queue has been unblocked is never deleted. -/
theorem not_deleted_of_interrupt :
    ∃ hist s, Run MsgTask.step (fun _ _ ↦ True) .initial hist s ∧ s.runner = .destroyed ∧
      ¬∀ msg ∈ sentOf hist, (deletedOf hist ++ destroyedOf hist).count msg = 1 := by
  obtain ⟨hist, s, hrun, hend, hlost⟩ :=
    Run.exists_of_runEvents MsgTask.step (fun _ _ ↦ True) .initial
    [.interrupt, .sendMsg 1 (some 10), .rcv, .flush, .destroy]
    (fun hist s ↦ s.runner = .destroyed ∧
      ¬∀ msg ∈ sentOf hist, (deletedOf hist ++ destroyedOf hist).count msg = 1) (by decide +kernel)
  exact ⟨hist, s, hrun, hend, hlost⟩

end MataDevice.MsgQueue
