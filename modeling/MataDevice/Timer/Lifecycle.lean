import MataDevice.Timer.Steps

/-!
# The life of a delegate

A delegate is made by a start of its `LocTimer`, which keeps it until a client stops it or it
expires; both go through `destroyLocked`, which sends the message that removes it from the heap and
deletes it. So a delegate is held by its timer, by the heap and by messages, and whoever is last
must find it alive.

For this the messages that are sent and processed are made part of the history. `Lifecycle` relates
them to each other and to the state: messages are processed in the order in which they are sent, the
delegates that are pushed are those started, the delegates that are removed are those that were
stopped or called back, and the heap holds only delegates whose removal has not been processed.

A message that makes timers expire reads the client of a delegate before it takes the lock of the
timer. `Undisturbed` says that no client takes the lock in between, as it is if messages are
processed in one step. `InRange` is needed only for the search in the heap.
-/

namespace MataDevice.Timer

open List
open Option (some_inj)

/-! ## Messages in the history -/

/-- What a step does that can be seen from outside, with the messages it processes and sends. -/
inductive Traffic
  | processed (msg : LocMsg)
  | out (o : Out)
  | sent (msg : LocMsg)
  deriving DecidableEq

/-- The message that a step takes from the queue. -/
def TimerSystem.processed (s : TimerSystem) : Event → List LocMsg
  | .task => if s.task = .idle then s.queue.take 1 else []
  | _ => []

/-- A step with its messages. -/
def TimerSystem.trafficStep (s : TimerSystem) (e : Event) : Option (TimerSystem × List Traffic) :=
  (s.step e).map fun (s', outs) ↦
    (s', (s.processed e).map .processed ++ outs.map .out ++
      (s'.queue.drop (s.queue.length - (s.processed e).length)).map .sent)

abbrev TimerHistory := List (Item Event Traffic)

def Traffic.processed? : Traffic → Option LocMsg
  | .processed msg => some msg
  | .out _ | .sent _ => none

def Traffic.out? : Traffic → Option Out
  | .out o => some o
  | .processed _ | .sent _ => none

def Traffic.sent? : Traffic → Option LocMsg
  | .sent msg => some msg
  | .processed _ | .out _ => none

/-- The delegate that was started, with its timer. -/
def Out.start? : Out → Option (ℕ × LocTimerDelegate)
  | .started timer (some delegate) => some (timer, delegate)
  | _ => none

/-- The delegate that was stopped or called back, with its timer. -/
def Out.end? : Out → Option (ℕ × LocTimerDelegate)
  | .stopped timer (some delegate) | .timeOutCallback timer delegate _ => some (timer, delegate)
  | _ => none

def LocMsg.pushed? : LocMsg → Option LocTimerDelegate
  | .timerPush timer => some timer
  | .timerRemove _ | .timerExpire => none

def LocMsg.removed? : LocMsg → Option LocTimerDelegate
  | .timerRemove timer => some timer
  | .timerPush _ | .timerExpire => none

/-- The delegate that the message task has popped and not yet dealt with. -/
def MsgTask.hand : MsgTask → Option LocTimerDelegate
  | .expiring _ timer | .stopping _ timer _ => some timer
  | .idle | .popping _ | .updating _ => none

/-- The message task has read the client of a delegate and is going to call its `stop`. -/
def MsgTask.InExpire : MsgTask → Prop
  | .stopping .. => True
  | .idle | .expiring .. | .popping _ | .updating _ => False

/-- A client does not start or stop a timer between the two halves of `expire`. -/
def Undisturbed (s : TimerSystem) : Event → Prop
  | .start .. | .stop _ => ¬s.task.InExpire
  | _ => True

instance : DecidablePred MsgTask.InExpire
  | .stopping .. => .isTrue trivial
  | .idle | .expiring .. | .popping _ | .updating _ => .isFalse not_false

instance (s : TimerSystem) : DecidablePred (Undisturbed s)
  | .start .. | .stop _ => inferInstanceAs (Decidable (¬_))
  | .tick _ | .epollWait | .poll | .task => .isTrue trivial

/-! ## The books of a run -/

/-- The messages and delegates of a history. -/
structure Ledger where
  sent : List LocMsg
  processed : List LocMsg
  starts : List (ℕ × LocTimerDelegate)
  ends : List (ℕ × LocTimerDelegate)

def ledger (hist : TimerHistory) : Ledger where
  sent := (outsOf hist).filterMap Traffic.sent?
  processed := (outsOf hist).filterMap Traffic.processed?
  starts := ((outsOf hist).filterMap Traffic.out?).filterMap Out.start?
  ends := ((outsOf hist).filterMap Traffic.out?).filterMap Out.end?

/-- What a step adds. -/
def Ledger.append (L : Ledger) (processed : List LocMsg) (outs : List Out) (sent : List LocMsg) :
    Ledger where
  sent := L.sent ++ sent
  processed := L.processed ++ processed
  starts := L.starts ++ outs.filterMap Out.start?
  ends := L.ends ++ outs.filterMap Out.end?

variable {s s' : TimerSystem} {e : Event} {outs : List Out} {L : Ledger}

theorem Ledger.append_start (L : Ledger) (timer : ℕ) (delegate : LocTimerDelegate) (msg : LocMsg) :
    L.append [] [.started timer (some delegate)] [msg]
      = { L with sent := L.sent ++ [msg], starts := L.starts ++ [(timer, delegate)] } := by
  rw [Ledger.append, List.append_nil]
  exact congrArg _ (List.append_nil _)

theorem Ledger.append_end (L : Ledger) {o : Out} {p : ℕ × LocTimerDelegate} (msg : LocMsg)
    (hstart : o.start? = none) (hend : o.end? = some p) :
    L.append [] [o] [msg] = { L with sent := L.sent ++ [msg], ends := L.ends ++ [p] } := by
  simp [Ledger.append, hstart, hend]

theorem ledger_append (hist : TimerHistory) (e : Event) (processed : List LocMsg)
    (outs : List Out) (sent : List LocMsg) :
    ledger (hist ++ entry e (processed.map .processed ++ outs.map .out ++ sent.map .sent))
      = (ledger hist).append processed outs sent := by
  simp [ledger, Ledger.append, Function.comp_def, Traffic.sent?, Traffic.processed?, Traffic.out?]

/-- A step takes what it processes from the front of the queue and appends what it sends. -/
theorem TimerStep.queue_append (h : TimerStep s e s' outs) :
    ∃ sent, s.queue.drop (s.processed e).length ++ sent = s'.queue := by
  cases h with
  | start timer timeOutInMs => exact ⟨[.timerPush (s.newDelegate timeOutInMs)], rfl⟩
  | @stop timer delegate => exact ⟨_, rfl⟩
  | sendExpire => exact ⟨[.timerExpire], rfl⟩
  | push hidle hqueue | remove hidle hqueue | expireNone hidle hqueue | expire hidle hqueue =>
    exact ⟨[], by simp [TimerSystem.processed, TimerSystem.procMsg, TimerSystem.delete, hidle, hqueue]⟩
  | call htask => exact ⟨_, by rw [TimerSystem.processed, if_neg (by simp [htask])]; rfl⟩
  | update htask => exact ⟨[], by simp [TimerSystem.processed, htask]⟩
  | expireStopped htask | readClient htask | callStopped htask | popNext htask | popNone htask
  | updated htask => exact ⟨[], by simp [TimerSystem.processed, htask]⟩
  | tick | startRunning | stopStopped | wake | disarm | unpoll =>
    exact ⟨[], by simp [TimerSystem.processed]⟩

theorem timerStep_of_trafficStep {traffic : List Traffic}
    (h : s.trafficStep e = some (s', traffic)) :
    ∃ outs sent, TimerStep s e s' outs ∧ s.queue.drop (s.processed e).length ++ sent = s'.queue ∧
      traffic = (s.processed e).map .processed ++ outs.map .out ++ sent.map .sent := by
  obtain ⟨⟨s₁, outs⟩, hs, heq⟩ := Option.map_eq_some_iff.mp h
  obtain ⟨rfl, rfl⟩ := Prod.mk.inj heq
  have hstep := timerStep_of_step hs
  obtain ⟨sent, hsent⟩ := hstep.queue_append
  refine ⟨outs, sent, hstep, hsent, ?_⟩
  rw [← hsent, ← length_drop, drop_left]

/-- In a heap that is in order nothing is left of an object that is removed. -/
theorem LocHeapNode.not_mem_remove {α : Type} [DecidableEq α] {ranks : α → α → ℤ}
    {t : LocHeapNode α} (h : t.Ordered (Timer.outRanks ranks)) (hr : RankTotally ranks t.toList)
    (hnodup : t.toList.Nodup) (x : α) :
    ((t.remove (Timer.outRanks ranks) x).getD t).toList.Nodup ∧
      x ∉ ((t.remove (Timer.outRanks ranks) x).getD t).toList := by
  cases hrem : t.remove (Timer.outRanks ranks) x with
  | none =>
    refine ⟨hnodup, fun hx ↦ ?_⟩
    obtain ⟨t', ht'⟩ := exists_remove_of_mem h hr hx
    rw [hrem] at ht'
    cases ht'
  | some t' =>
    have hcons := (toList_remove hrem).nodup_iff.mpr hnodup
    exact (nodup_cons.mp hcons).symm

/-- The books agree with the state. -/
structure Books (L : Ledger) (s : TimerSystem) : Prop where
  fifo : L.sent = L.processed ++ s.queue
  pushes : L.sent.filterMap LocMsg.pushed? = L.starts.map Prod.snd
  removes : L.sent.filterMap LocMsg.removed? = L.ends.map Prod.snd
  addresses : L.starts.map (·.2.address) = List.range s.nextAddress
  inOrder : Always (fun pre msg ↦ ∀ d, msg = .timerRemove d → .timerPush d ∈ pre) L.sent
  once : (L.ends.map Prod.snd).Nodup
  held : ∀ timer d, s.mTimer timer = some d → (timer, d) ∈ L.starts ∧ d ∉ L.ends.map Prod.snd ∧
    s.delegates d.address = ⟨some timer, true, false⟩
  client : ∀ a timer, (s.delegates a).mClient = some timer →
    ∃ d, s.mTimer timer = some d ∧ d.address = a
  left : ∀ p ∈ L.starts, p ∈ L.ends ∨ s.mTimer p.1 = some p.2
  ended : ∀ p ∈ L.ends, p ∈ L.starts
  nodup : s.mTree.toList.Nodup
  stored : ∀ x ∈ s.mTree.toList, .timerPush x ∈ L.processed ∧ .timerRemove x ∉ L.processed
  deleted : ∀ a, (s.delegates a).deleted = true ↔
    ∃ d, d.address = a ∧ .timerRemove d ∈ L.processed

namespace Books

variable {d : LocTimerDelegate} {queue : List LocMsg} {p q : ℕ × LocTimerDelegate}

theorem initial {clock : Timespec} : Books ⟨[], [], [], []⟩ (.initial clock) where
  fifo := rfl
  pushes := rfl
  removes := rfl
  addresses := rfl
  inOrder := always_nil _
  once := .nil
  held := by simp [TimerSystem.initial]
  client := by simp [TimerSystem.initial]
  left := by simp
  ended := by simp
  nodup := .nil
  stored := by simp [TimerSystem.initial, LocHeapNode.toList]
  deleted := by simp [TimerSystem.initial]

section

variable (h : Books L s)
include h

theorem address_lt (hp : p ∈ L.starts) : p.2.address < s.nextAddress := by
  have hmem : p.2.address ∈ L.starts.map (·.2.address) := mem_map_of_mem hp
  rw [h.addresses] at hmem
  exact mem_range.mp hmem

/-- A delegate has its address to itself. -/
theorem unique (hp : p ∈ L.starts) (hq : q ∈ L.starts)
    (heq : p.2.address = q.2.address) : p = q := by
  have hnodup : (L.starts.map (·.2.address)).Nodup := h.addresses ▸ nodup_range
  exact inj_on_of_nodup_map hnodup hp hq heq

theorem mem_starts (hd : .timerPush d ∈ L.sent) : ∃ p ∈ L.starts, p.2 = d := by
  have hmem : d ∈ L.sent.filterMap LocMsg.pushed? := mem_filterMap.mpr ⟨_, hd, rfl⟩
  rw [h.pushes] at hmem
  exact mem_map.mp hmem

theorem push_sent (hp : p ∈ L.starts) : .timerPush p.2 ∈ L.sent := by
  have hmem : p.2 ∈ L.sent.filterMap LocMsg.pushed? := h.pushes ▸ mem_map_of_mem hp
  obtain ⟨msg, hmsg, heq⟩ := mem_filterMap.mp hmem
  cases msg with
  | timerPush timer => exact some_inj.mp heq ▸ hmsg
  | timerRemove timer => cases heq
  | timerExpire => cases heq

theorem mem_ends (hd : .timerRemove d ∈ L.sent) : d ∈ L.ends.map Prod.snd := by
  rw [← h.removes]
  exact mem_filterMap.mpr ⟨_, hd, rfl⟩

theorem processed_subset : L.processed ⊆ L.sent := by
  rw [h.fifo]
  exact subset_append_left ..

/-- A removal is processed after the push. -/
theorem inOrder_processed :
    Always (fun pre msg ↦ ∀ d, msg = .timerRemove d → .timerPush d ∈ pre) L.processed := by
  have hall := h.inOrder
  rw [h.fifo] at hall
  exact (always_append.mp hall).1

theorem push_of_remove (hd : .timerRemove d ∈ L.processed) :
    .timerPush d ∈ L.processed := by
  obtain ⟨pre, post, heq⟩ := append_of_mem hd
  have hpush := h.inOrder_processed pre _ post heq d rfl
  rw [heq]
  exact mem_append_left _ hpush

/-- A push that waits in the queue has not been processed. -/
theorem push_not_processed (hqueue : s.queue = .timerPush d :: queue) :
    .timerPush d ∉ L.processed := by
  intro hmem
  have hnodup : (L.sent.filterMap LocMsg.pushed?).Nodup := by
    rw [h.pushes]
    refine List.Nodup.of_map LocTimerDelegate.address ?_
    rw [map_map]
    exact h.addresses ▸ nodup_range
  rw [h.fifo, hqueue, filterMap_append] at hnodup
  refine (nodup_append.mp hnodup).2.2 d (mem_filterMap.mpr ⟨_, hmem, rfl⟩) d ?_ rfl
  exact mem_filterMap.mpr ⟨_, mem_cons_self, rfl⟩

/-- No message is in the books for a deleted delegate of the heap. -/
theorem not_deleted {x : LocTimerDelegate} (hx : x ∈ s.mTree.toList) :
    (s.delegates x.address).deleted = false := by
  rw [← Bool.not_eq_true, h.deleted]
  rintro ⟨d, haddr, hd⟩
  obtain ⟨hpush, hremove⟩ := h.stored x hx
  obtain ⟨p, hp, rfl⟩ := h.mem_starts (h.processed_subset hpush)
  obtain ⟨q, hq, rfl⟩ := h.mem_starts (h.processed_subset (h.push_of_remove hd))
  rw [h.unique hq hp haddr] at hd
  exact hremove hd

/-- What the books do not look at. -/
theorem congr (hmTimer : s'.mTimer = s.mTimer)
    (hdelegates : s'.delegates = s.delegates) (hnext : s'.nextAddress = s.nextAddress)
    (htree : s'.mTree = s.mTree) (hqueue : s'.queue = s.queue) : Books L s' where
  fifo := hqueue ▸ h.fifo
  pushes := h.pushes
  removes := h.removes
  addresses := hnext ▸ h.addresses
  inOrder := h.inOrder
  once := h.once
  held := by
    rw [hmTimer, hdelegates]
    exact h.held
  client := by
    rw [hmTimer, hdelegates]
    exact h.client
  left := hmTimer ▸ h.left
  ended := h.ended
  nodup := htree ▸ h.nodup
  stored := htree ▸ h.stored
  deleted := hdelegates ▸ h.deleted

theorem sendExpire :
    Books (L.append [] [] [.timerExpire]) { s with queue := s.queue ++ [.timerExpire] } where
  fifo := by simp [Ledger.append, h.fifo]
  pushes := by simp [Ledger.append, h.pushes, LocMsg.pushed?]
  removes := by simp [Ledger.append, h.removes, LocMsg.removed?]
  addresses := by simpa [Ledger.append] using h.addresses
  inOrder := always_concat.mpr ⟨h.inOrder, by simp⟩
  once := by simpa [Ledger.append] using h.once
  held := by simpa [Ledger.append] using h.held
  client := h.client
  left := by simpa [Ledger.append] using h.left
  ended := by simpa [Ledger.append] using h.ended
  nodup := h.nodup
  stored := by simpa [Ledger.append] using h.stored
  deleted := by simpa [Ledger.append] using h.deleted

end

/-- The next message of the queue is processed. What it does to the heap and the delegates is left
open. -/
theorem process (h : Books L s) {msg : LocMsg} (hqueue : s.queue = msg :: queue)
    {mTree : LocHeapNode LocTimerDelegate} (delegates : ℕ → DelegateState)
    (hheld : ∀ timer d, s.mTimer timer = some d → delegates d.address = s.delegates d.address)
    (hclient : ∀ a, (delegates a).mClient = (s.delegates a).mClient)
    (hnodup : mTree.toList.Nodup)
    (hstored : ∀ x ∈ mTree.toList,
      .timerPush x ∈ L.processed ++ [msg] ∧ .timerRemove x ∉ L.processed ++ [msg])
    (hdeleted : ∀ a, (delegates a).deleted = true ↔
      ∃ d, d.address = a ∧ .timerRemove d ∈ L.processed ++ [msg]) :
    Books (L.append [msg] [] [])
      { s with queue := queue, mTree := mTree, delegates := delegates } where
  fifo := by simp [Ledger.append, h.fifo, hqueue]
  pushes := by simpa [Ledger.append] using h.pushes
  removes := by simpa [Ledger.append] using h.removes
  addresses := by simpa [Ledger.append] using h.addresses
  inOrder := by simpa [Ledger.append] using h.inOrder
  once := by simpa [Ledger.append] using h.once
  held := by
    intro timer d hd
    obtain ⟨hstart, hend, hstate⟩ := h.held timer d hd
    exact ⟨by simpa [Ledger.append] using hstart, by simpa [Ledger.append] using hend,
      (hheld timer d hd).trans hstate⟩
  client := by
    intro a timer ha
    exact h.client a timer ((hclient a).symm.trans ha)
  left := by simpa [Ledger.append] using h.left
  ended := by simpa [Ledger.append] using h.ended
  nodup := hnodup
  stored := hstored
  deleted := hdeleted

theorem push (h : Books L s) (hqueue : s.queue = .timerPush d :: queue) :
    Books (L.append [.timerPush d] [] []) { s with
      queue := queue, mTree := s.mTree.push LocTimerDelegate.outRanks d } := by
  have hperm : (s.mTree.push LocTimerDelegate.outRanks d).toList.Perm (d :: s.mTree.toList) :=
    LocHeapNode.toList_push d s.mTree
  have hnew := h.push_not_processed hqueue
  refine h.process hqueue s.delegates (fun _ _ _ ↦ rfl) (fun _ ↦ rfl) ?_ (fun x hx ↦ ?_) fun a ↦ ?_
  · rw [hperm.nodup_iff, nodup_cons]
    exact ⟨fun hd ↦ hnew (h.stored d hd).1, h.nodup⟩
  · rcases mem_cons.mp (hperm.subset hx) with rfl | hx
    · exact ⟨by simp, by simpa using fun hr ↦ hnew (h.push_of_remove hr)⟩
    · obtain ⟨hpush, hremove⟩ := h.stored x hx
      exact ⟨mem_append_left _ hpush, by simpa using hremove⟩
  · rw [h.deleted]
    simp

theorem takeExpire (h : Books L s) (hqueue : s.queue = .timerExpire :: queue) :
    Books (L.append [.timerExpire] [] []) { s with queue := queue } := by
  refine h.process hqueue s.delegates (fun _ _ _ ↦ rfl) (fun _ ↦ rfl) h.nodup (fun x hx ↦ ?_) fun a ↦ ?_
  · simpa using h.stored x hx
  · rw [h.deleted]
    simp

theorem popped (h : Books L s) :
    Books L { s with mTree := s.mTree.popped LocTimerDelegate.outRanks } where
  __ := h
  nodup := by
    cases hpeek : s.mTree.peek with
    | none =>
      cases hnull : s.mTree with
      | null => exact .nil
      | node mSize mData mLeft mRight =>
        rw [hnull] at hpeek
        cases hpeek
    | some top =>
      have hperm : (top :: (s.mTree.popped LocTimerDelegate.outRanks).toList).Perm s.mTree.toList :=
        LocHeapNode.toList_popped hpeek
      exact (nodup_cons.mp (hperm.nodup_iff.mpr h.nodup)).2
  stored x hx := h.stored x (LocHeapNode.mem_of_mem_popped hx)

/-- The search finds its delegate if it is in the heap, because the heap is in order. -/
theorem remove (h : Books L s) (horder : HeapInOrder s)
    (hqueue : s.queue = .timerRemove d :: queue) :
    Books (L.append [.timerRemove d] [] [])
      ({ s with queue := queue }.procMsg (.timerRemove d)) := by
  obtain ⟨hnodup, hgone⟩ := LocHeapNode.not_mem_remove horder.ordered horder.totally h.nodup d
  have hsent : .timerRemove d ∈ L.sent := by
    rw [h.fifo, hqueue]
    simp
  refine (h.process hqueue (Function.update s.delegates d.address
    { s.delegates d.address with deleted := true }) ?_ ?_ hnodup ?_ ?_).congr rfl rfl rfl rfl rfl
  · -- a delegate that is held has not ended, so that this is another one
    intro timer d' hd'
    obtain ⟨hstart, hend, -⟩ := h.held timer d' hd'
    refine Function.update_of_ne (fun haddr ↦ hend ?_) ..
    obtain ⟨p, hp, heq⟩ := mem_map.mp (h.mem_ends hsent)
    have hsame := h.unique hstart (h.ended p hp) (haddr.trans (congrArg _ heq.symm))
    rw [← hsame] at hp
    exact mem_map_of_mem hp
  · intro a
    rw [Function.update_apply]
    split
    · next heq => rw [heq]
    · rfl
  · intro x hx
    obtain ⟨hpush, hremove⟩ := h.stored x (LocHeapNode.mem_of_mem_remove hx)
    refine ⟨mem_append_left _ hpush, ?_⟩
    simp only [mem_append, hremove, mem_singleton, LocMsg.timerRemove.injEq, false_or]
    rintro rfl
    exact hgone hx
  · intro a
    simp only [Function.update_apply, mem_append, mem_singleton,
      LocMsg.timerRemove.injEq]
    split
    · next heq => exact ⟨fun _ ↦ ⟨d, heq.symm, .inr rfl⟩, fun _ ↦ rfl⟩
    · next hne =>
      rw [h.deleted]
      refine exists_congr fun d' ↦ and_congr_right fun haddr ↦ ⟨.inl, fun hd' ↦ ?_⟩
      exact hd'.resolve_right fun heq ↦ hne (heq ▸ haddr.symm)

theorem start (h : Books L s) {timer : ℕ} (timeOutInMs : UInt32) (htimer : s.mTimer timer = none) :
    Books
      { L with
        sent := L.sent ++ [.timerPush (s.newDelegate timeOutInMs)]
        starts := L.starts ++ [(timer, s.newDelegate timeOutInMs)] }
      { s with
        mTimer := Function.update s.mTimer timer (some (s.newDelegate timeOutInMs))
        delegates := Function.update s.delegates s.nextAddress ⟨some timer, true, false⟩
        nextAddress := s.nextAddress + 1
        queue := s.queue ++ [.timerPush (s.newDelegate timeOutInMs)] } where
  fifo := by rw [h.fifo, append_assoc]
  pushes := by
    rw [filterMap_append, h.pushes, map_append]
    rfl
  removes := by
    rw [filterMap_append, h.removes]
    exact List.append_nil _
  addresses := by
    rw [map_append, h.addresses, range_succ]
    rfl
  inOrder := always_concat.mpr ⟨h.inOrder, by simp⟩
  once := h.once
  held := by
    intro timer' d' hd'
    dsimp only at hd' ⊢
    rw [Function.update_apply] at hd'
    split at hd'
    · next heq =>
      obtain rfl := some_inj.mp hd'
      refine ⟨by simp [heq], fun hend ↦ ?_, by rw [heq]; exact Function.update_self ..⟩
      obtain ⟨p, hp, hpd⟩ := mem_map.mp hend
      have hlt := h.address_lt (h.ended p hp)
      rw [hpd] at hlt
      exact lt_irrefl _ hlt
    · obtain ⟨hstart, hend, hstate⟩ := h.held timer' d' hd'
      refine ⟨mem_append_left _ hstart, hend, ?_⟩
      rw [Function.update_of_ne (h.address_lt hstart).ne]
      exact hstate
  client := by
    intro a timer' ha
    dsimp only at ha ⊢
    rw [Function.update_apply] at ha
    split at ha
    · next heq =>
      obtain rfl := some_inj.mp ha
      exact ⟨s.newDelegate timeOutInMs, Function.update_self .., heq.symm⟩
    · obtain ⟨d', hd', haddr⟩ := h.client a timer' ha
      have hne : timer' ≠ timer := by
        rintro rfl
        rw [htimer] at hd'
        cases hd'
      exact ⟨d', by rw [Function.update_of_ne hne]; exact hd', haddr⟩
  left := by
    intro p hp
    rcases mem_append.mp hp with hp | hp
    · refine (h.left p hp).imp_right fun hd ↦ ?_
      have hne : p.1 ≠ timer := by
        intro heq
        rw [heq, htimer] at hd
        cases hd
      dsimp only
      rw [Function.update_of_ne hne]
      exact hd
    · obtain rfl := mem_singleton.mp hp
      exact .inr (Function.update_self ..)
  ended p hp := mem_append_left _ (h.ended p hp)
  nodup := h.nodup
  stored := h.stored
  deleted := by
    intro a
    dsimp only
    rw [Function.update_apply]
    split
    · next heq =>
      refine ⟨fun hfalse ↦ absurd hfalse Bool.false_ne_true, ?_⟩
      rintro ⟨d', haddr, hd'⟩
      -- the address is new, so that no message can name it
      obtain ⟨p, hp, rfl⟩ := h.mem_starts (h.processed_subset (h.push_of_remove hd'))
      exact absurd (h.address_lt hp) (by omega)
    · exact h.deleted a

/-- What is held after one timer has been stopped. -/
private theorem update_none_eq_some {mTimer : ℕ → Option LocTimerDelegate} {timer timer' : ℕ}
    (hd : Function.update mTimer timer none timer' = some d) :
    timer' ≠ timer ∧ mTimer timer' = some d := by
  rw [Function.update_apply] at hd
  split at hd
  · cases hd
  · next hne => exact ⟨hne, hd⟩

/-- A delegate that is held has its address to itself. -/
theorem address_ne (h : Books L s) {timer timer' : ℕ} {d' : LocTimerDelegate}
    (hd : s.mTimer timer = some d) (hd' : s.mTimer timer' = some d') (hne : timer' ≠ timer) :
    d'.address ≠ d.address := by
  intro haddr
  have hsame := h.unique (h.held timer' d' hd').1 (h.held timer d hd).1 haddr
  exact hne (congrArg Prod.fst hsame)

/-- A held delegate leaves its timer, and the message that removes it is sent. -/
theorem destroy (h : Books L s) {timer : ℕ} (hd : s.mTimer timer = some d) :
    Books
      { L with
        sent := L.sent ++ [.timerRemove d]
        ends := L.ends ++ [(timer, d)] }
      ({ s with mTimer := Function.update s.mTimer timer none }.destroyLocked d) where
  fifo := by
    have hstate := (h.held timer d hd).2.2
    simp [TimerSystem.destroyLocked, hstate, h.fifo]
  pushes := by
    rw [filterMap_append, h.pushes]
    exact List.append_nil _
  removes := by
    rw [filterMap_append, h.removes, map_append]
    rfl
  addresses := h.addresses
  inOrder := by
    refine always_concat.mpr ⟨h.inOrder, fun d' heq ↦ ?_⟩
    obtain rfl := LocMsg.timerRemove.inj heq
    exact h.push_sent (h.held timer d hd).1
  once := by
    have hconcat := h.once.concat (h.held timer d hd).2.1
    rw [concat_eq_append] at hconcat
    rw [map_append]
    exact hconcat
  held := by
    intro timer' d' hd'
    obtain ⟨hne, hd'⟩ := update_none_eq_some hd'
    obtain ⟨hstart', hend', hstate'⟩ := h.held timer' d' hd'
    have haddr := h.address_ne hd hd' hne
    refine ⟨hstart', ?_, ?_⟩
    · rw [map_append, mem_append, not_or]
      refine ⟨hend', fun hmem ↦ haddr ?_⟩
      rw [mem_singleton.mp hmem]
    · dsimp only [TimerSystem.destroyLocked]
      rw [Function.update_of_ne haddr]
      exact hstate'
  client := by
    intro a timer' ha
    dsimp only [TimerSystem.destroyLocked] at ha ⊢
    rw [Function.update_apply] at ha
    split at ha
    · cases ha
    · next hne =>
      obtain ⟨d', hd', haddr⟩ := h.client a timer' ha
      refine ⟨d', ?_, haddr⟩
      rw [Function.update_of_ne]
      · exact hd'
      · rintro rfl
        obtain rfl := some_inj.mp (hd.symm.trans hd')
        exact hne haddr.symm
  left := by
    intro p hp
    rcases h.left p hp with hp | hp
    · exact .inl (mem_append_left _ hp)
    · by_cases heq : p.1 = timer
      · rw [heq, hd] at hp
        refine .inl (mem_append_right _ ?_)
        rw [mem_singleton, ← heq, some_inj.mp hp]
      · exact .inr ((Function.update_of_ne heq ..).trans hp)
  ended := by
    intro p hp
    rcases mem_append.mp hp with hp | hp
    · exact h.ended p hp
    · obtain rfl := mem_singleton.mp hp
      exact (h.held timer d hd).1
  nodup := h.nodup
  stored := h.stored
  deleted := by
    intro a
    dsimp only [TimerSystem.destroyLocked]
    rw [← h.deleted, Function.update_apply]
    split
    · next heq => rw [heq]
    · rfl

end Books

/-- The books, and the delegate that the message task has in hand. -/
structure Lifecycle (L : Ledger) (s : TimerSystem) : Prop extends Books L s where
  kept : ∀ p ∈ L.starts, .timerPush p.2 ∈ s.queue ∨ p.2 ∈ s.mTree.toList ∨ p ∈ L.ends ∨
    s.task.hand = some p.2
  hand : ∀ d, s.task.hand = some d → ∃ p ∈ L.starts, p.2 = d
  inExpire : ∀ now d timer, s.task = .stopping now d timer → s.mTimer timer = some d

namespace Lifecycle

variable {d : LocTimerDelegate} {queue : List LocMsg}

theorem initial {clock : Timespec} : Lifecycle ⟨[], [], [], []⟩ (.initial clock) where
  toBooks := .initial
  kept := by simp
  hand := by simp [TimerSystem.initial, MsgTask.hand]
  inExpire := by simp [TimerSystem.initial]

/-- What only other parts of the system see. -/
theorem congr (h : Lifecycle L s) (hmTimer : s'.mTimer = s.mTimer)
    (hdelegates : s'.delegates = s.delegates) (hnext : s'.nextAddress = s.nextAddress)
    (htree : s'.mTree = s.mTree) (hqueue : s'.queue = s.queue) (htask : s'.task = s.task) :
    Lifecycle L s' where
  toBooks := h.toBooks.congr hmTimer hdelegates hnext htree hqueue
  kept := by
    rw [hqueue, htree, htask]
    exact h.kept
  hand := htask ▸ h.hand
  inExpire := by
    rw [htask, hmTimer]
    exact h.inExpire

/-- The message task goes on, with nothing in hand before and after. -/
theorem goOn (h : Lifecycle L s) {task : MsgTask} (hbefore : s.task.hand = none)
    (hafter : task.hand = none) : Lifecycle L { s with task := task } where
  toBooks := h.toBooks.congr rfl rfl rfl rfl rfl
  kept := by
    intro p hp
    have hkept := h.kept p hp
    rw [hbefore] at hkept
    rwa [hafter]
  hand := by
    rw [hafter]
    simp
  inExpire := by
    rintro now d timer rfl
    cases hafter

variable {sent : List LocMsg} {now : Timespec}

/-- A step that sends and processes nothing and shows nothing of a delegate. -/
theorem quiet (h : Lifecycle L s')
    (hsent : s.queue.drop (s.processed e).length ++ sent = s'.queue) (hp : s.processed e = [])
    (hqueue : s'.queue = s.queue) (hstart : outs.filterMap Out.start? = [])
    (hend : outs.filterMap Out.end? = []) : Lifecycle (L.append (s.processed e) outs sent) s' := by
  rw [hp, hqueue] at hsent
  obtain rfl : sent = [] := by simpa using hsent
  have hL : L.append (s.processed e) outs [] = L := by simp [Ledger.append, hp, hstart, hend]
  rw [hL]
  exact h

variable (h : Lifecycle L s)
include h

theorem start {timer : ℕ} (timeOutInMs : UInt32)
    (htimer : s.mTimer timer = none) (hg : ¬s.task.InExpire) :
    Lifecycle
      { L with
        sent := L.sent ++ [.timerPush (s.newDelegate timeOutInMs)]
        starts := L.starts ++ [(timer, s.newDelegate timeOutInMs)] }
      { s with
        mTimer := Function.update s.mTimer timer (some (s.newDelegate timeOutInMs))
        delegates := Function.update s.delegates s.nextAddress ⟨some timer, true, false⟩
        nextAddress := s.nextAddress + 1
        queue := s.queue ++ [.timerPush (s.newDelegate timeOutInMs)] } where
  toBooks := h.toBooks.start timeOutInMs htimer
  kept := by
    intro p hp
    rcases mem_append.mp hp with hp | hp
    · exact (h.kept p hp).imp_left (mem_append_left _)
    · obtain rfl := mem_singleton.mp hp
      exact .inl (by simp)
  hand := by
    intro d hd
    obtain ⟨p, hp, heq⟩ := h.hand d hd
    exact ⟨p, mem_append_left _ hp, heq⟩
  inExpire := by
    intro now d timer' htask
    dsimp only at htask
    rw [htask] at hg
    exact absurd trivial hg

/-- A delegate ends, in a stop by its client or in hand. -/
theorem destroy {timer : ℕ} (hd : s.mTimer timer = some d) (task : MsgTask)
    (hhand : task.hand = s.task.hand ∨ task.hand = none ∧ s.task.hand = some d)
    (hexp : ¬task.InExpire) :
    Lifecycle
      { L with
        sent := L.sent ++ [.timerRemove d]
        ends := L.ends ++ [(timer, d)] }
      { { s with mTimer := Function.update s.mTimer timer none }.destroyLocked d with
        task := task } where
  toBooks := (h.toBooks.destroy hd).congr rfl rfl rfl rfl rfl
  kept := by
    intro p hp
    rcases h.kept p hp with hq | hq | hq | hq
    · exact .inl (mem_append_left _ hq)
    · exact .inr (.inl hq)
    · exact .inr (.inr (.inl (mem_append_left _ hq)))
    · rcases hhand with heq | ⟨-, hold⟩
      · exact .inr (.inr (.inr (heq.trans hq)))
      · -- it was in hand and has just ended
        obtain rfl := some_inj.mp (hold.symm.trans hq)
        have hsame := h.unique hp (h.held timer _ hd).1 rfl
        exact .inr (.inr (.inl (mem_append_right _ (mem_singleton.mpr hsame))))
  hand := by
    intro d' hd'
    rcases hhand with heq | ⟨hnone, -⟩
    · exact h.hand d' (heq.symm.trans hd')
    · cases hnone.symm.trans hd'
  inExpire := by
    rintro now d' timer' rfl
    exact absurd trivial hexp

theorem push (hidle : s.task = .idle)
    (hqueue : s.queue = .timerPush d :: queue) {calls : List KernelCall} :
    Lifecycle (L.append [.timerPush d] [] []) { s with
      queue := queue
      mTree := s.mTree.push LocTimerDelegate.outRanks d
      task := .updating calls } where
  toBooks := (h.toBooks.push hqueue).congr rfl rfl rfl rfl rfl
  kept := by
    intro p hp
    have hperm : (s.mTree.push LocTimerDelegate.outRanks d).toList.Perm (d :: s.mTree.toList) :=
      LocHeapNode.toList_push d s.mTree
    have hp' : p ∈ L.starts := by simpa [Ledger.append] using hp
    rcases h.kept p hp' with hq | hq | hq | hq
    · rw [hqueue] at hq
      rcases mem_cons.mp hq with heq | hq
      · obtain rfl := LocMsg.timerPush.inj heq
        exact .inr (.inl (hperm.symm.subset mem_cons_self))
      · exact .inl hq
    · exact .inr (.inl (hperm.symm.subset (mem_cons_of_mem _ hq)))
    · exact .inr (.inr (.inl (by simpa [Ledger.append] using hq)))
    · rw [hidle] at hq
      cases hq
  hand := by simp [MsgTask.hand]
  inExpire := by simp

theorem remove (horder : HeapInOrder s) (hidle : s.task = .idle)
    (hqueue : s.queue = .timerRemove d :: queue) :
    Lifecycle (L.append [.timerRemove d] [] [])
      ({ s with queue := queue }.procMsg (.timerRemove d)) where
  toBooks := h.toBooks.remove horder hqueue
  kept := by
    intro p hp
    have hp' : p ∈ L.starts := by simpa [Ledger.append] using hp
    rcases h.kept p hp' with hq | hq | hq | hq
    · rw [hqueue] at hq
      exact .inl ((mem_cons.mp hq).resolve_left (by simp))
    · by_cases heq : p.2 = d
      · -- what is removed has ended
        have hsent : .timerRemove d ∈ L.sent := by
          rw [h.fifo, hqueue]
          simp
        obtain ⟨q, hend, hqd⟩ := mem_map.mp (h.mem_ends hsent)
        have hsame := h.unique hp' (h.ended q hend) (by rw [heq, hqd])
        exact .inr (.inr (.inl (by simpa [Ledger.append, hsame] using hend)))
      · refine .inr (.inl ?_)
        dsimp only [TimerSystem.procMsg, TimerSystem.delete]
        cases hrem : s.mTree.remove LocTimerDelegate.outRanks d with
        | none => exact hq
        | some left =>
          have hmem := (LocHeapNode.toList_remove hrem).symm.subset hq
          exact (mem_cons.mp hmem).resolve_left heq
    · exact .inr (.inr (.inl (by simpa [Ledger.append] using hq)))
    · rw [hidle] at hq
      cases hq
  hand := by simp [TimerSystem.procMsg, MsgTask.hand]
  inExpire := by simp [TimerSystem.procMsg]

/-- The top of the heap goes to the message task, which has nothing in hand. -/
theorem pop (hhand : s.task.hand = none) (hpeek : s.mTree.peek = some d) : Lifecycle L { s with
      mTree := s.mTree.popped LocTimerDelegate.outRanks
      task := .expiring now d } where
  toBooks := h.toBooks.popped.congr rfl rfl rfl rfl rfl
  kept := by
    intro p hp
    rcases h.kept p hp with hq | hq | hq | hq
    · exact .inl hq
    · have hperm : (d :: (s.mTree.popped LocTimerDelegate.outRanks).toList).Perm s.mTree.toList :=
        LocHeapNode.toList_popped hpeek
      rcases mem_cons.mp (hperm.symm.subset hq) with heq | hq
      · exact .inr (.inr (.inr (by rw [heq]; rfl)))
      · exact .inr (.inl hq)
    · exact .inr (.inr (.inl hq))
    · cases hhand.symm.trans hq
  hand := by
    rintro d' ⟨⟩
    have hpush := (h.stored d (LocHeapNode.mem_of_peek hpeek)).1
    exact h.mem_starts (h.processed_subset hpush)
  inExpire := by simp

theorem takeExpire (hidle : s.task = .idle) (hqueue : s.queue = .timerExpire :: queue) :
    Lifecycle (L.append [.timerExpire] [] []) { s with queue := queue } where
  toBooks := h.toBooks.takeExpire hqueue
  kept := by
    intro p hp
    have hp' : p ∈ L.starts := by simpa [Ledger.append] using hp
    refine (h.kept p hp').imp (fun hq ↦ ?_) (.imp_right (.imp_left fun hq ↦ ?_))
    · rw [hqueue] at hq
      exact (mem_cons.mp hq).resolve_left (by simp)
    · simpa [Ledger.append] using hq
  hand := by
    intro d hd
    dsimp only at hd
    rw [hidle] at hd
    cases hd
  inExpire := by
    intro now d timer htask
    cases hidle.symm.trans htask

/-- A delegate whose client is gone has ended. -/
theorem expireStopped (htask : s.task = .expiring now d)
    (hclient : (s.delegates d.address).mClient = none) :
    Lifecycle L { s with task := .popping now } where
  toBooks := h.toBooks.congr rfl rfl rfl rfl rfl
  kept := by
    intro p hp
    rcases h.kept p hp with hq | hq | hq | hq
    · exact .inl hq
    · exact .inr (.inl hq)
    · exact .inr (.inr (.inl hq))
    · rw [htask] at hq
      obtain rfl := some_inj.mp hq
      refine .inr (.inr (.inl ((h.left p hp).resolve_right fun hheld ↦ ?_)))
      rw [(h.held p.1 p.2 hheld).2.2] at hclient
      cases hclient
  hand := by simp [MsgTask.hand]
  inExpire := by simp

/-- The client of a delegate still holds it. -/
theorem readClient {client : ℕ}
    (htask : s.task = .expiring now d) (hclient : (s.delegates d.address).mClient = some client) :
    Lifecycle L { s with task := .stopping now d client } where
  toBooks := h.toBooks.congr rfl rfl rfl rfl rfl
  kept := by
    have hkept := h.kept
    rw [htask] at hkept
    exact hkept
  hand := by
    have hhand := h.hand
    rw [htask] at hhand
    exact hhand
  inExpire := by
    rintro now' d' timer ⟨⟩
    obtain ⟨d', hd', haddr⟩ := h.client d.address client hclient
    obtain ⟨p, hp, rfl⟩ := h.hand d (by rw [htask]; rfl)
    have hsame := h.unique (h.held client d' hd').1 hp haddr
    rw [← hsame]
    exact hd'

theorem step (horder : HeapInOrder s) (hg : Undisturbed s e) (hs : TimerStep s e s' outs)
    (hsent : s.queue.drop (s.processed e).length ++ sent = s'.queue) :
    Lifecycle (L.append (s.processed e) outs sent) s' := by
  -- what a message that is processed leaves of the queue is what is left of it
  have hproc : ∀ {msg : LocMsg} {queue : List LocMsg}, s.task = .idle → s.queue = msg :: queue →
      e = .task → s'.queue = queue → s.processed e = [msg] ∧ sent = [] := by
    rintro msg queue hidle hqueue rfl hqueue'
    have hp : s.processed .task = [msg] := by
      rw [TimerSystem.processed, if_pos hidle, hqueue]
      rfl
    refine ⟨hp, ?_⟩
    rw [hp, hqueue, hqueue'] at hsent
    exact append_right_eq_self.mp hsent
  have hnone : ∀ {task : MsgTask}, s.task = task → task ≠ .idle → s.processed .task = [] := by
    rintro task rfl hne
    rw [TimerSystem.processed, if_neg hne]
  cases hs with
  | tick | wake | disarm | unpoll =>
    refine quiet ?_ hsent rfl rfl filterMap_nil filterMap_nil
    exact h.congr rfl rfl rfl rfl rfl rfl
  | startRunning | stopStopped => exact quiet h hsent rfl rfl rfl rfl
  | start timer timeOutInMs htimer =>
    obtain rfl := append_cancel_left hsent
    have hp : s.processed (.start timer timeOutInMs) = [] := rfl
    rw [hp, L.append_start]
    exact h.start timeOutInMs htimer hg
  | @stop timer delegate hd =>
    obtain rfl := append_cancel_left hsent
    have hp : s.processed (.stop timer) = [] := rfl
    rw [hp, (h.held timer delegate hd).2.2, if_pos rfl, L.append_end _ rfl rfl]
    exact h.destroy hd s.task (.inl rfl) hg
  | sendExpire =>
    obtain rfl := append_cancel_left hsent
    have hkept : ∀ p ∈ L.starts, .timerPush p.2 ∈ s.queue ++ [.timerExpire] ∨
        p.2 ∈ s.mTree.toList ∨ p ∈ L.ends ∨ s.task.hand = some p.2 :=
      fun p hp ↦ (h.kept p hp).imp_left (mem_append_left _)
    refine ⟨h.toBooks.sendExpire.congr rfl rfl rfl rfl rfl, ?_, ?_, h.inExpire⟩
    · simpa [Ledger.append] using hkept
    · simpa [Ledger.append] using h.hand
  | push hidle hqueue =>
    obtain ⟨hp, rfl⟩ := hproc hidle hqueue rfl rfl
    rw [hp]
    exact h.push hidle hqueue
  | remove hidle hqueue =>
    obtain ⟨hp, rfl⟩ := hproc hidle hqueue rfl rfl
    rw [hp]
    exact h.remove horder hidle hqueue
  | expireNone hidle hqueue =>
    obtain ⟨hp, rfl⟩ := hproc hidle hqueue rfl rfl
    rw [hp]
    exact (h.takeExpire hidle hqueue).goOn (by rw [hidle]; rfl) rfl
  | expire hidle hqueue hpeek =>
    obtain ⟨hp, rfl⟩ := hproc hidle hqueue rfl rfl
    rw [hp]
    exact (h.takeExpire hidle hqueue).pop (by rw [hidle]; rfl) hpeek
  | expireStopped htask hclient =>
    exact quiet (h.expireStopped htask hclient) hsent (hnone htask (by simp)) rfl rfl rfl
  | readClient htask hclient =>
    exact quiet (h.readClient htask hclient) hsent (hnone htask (by simp)) rfl rfl rfl
  | callStopped htask hclient => cases hclient.symm.trans (h.inExpire _ _ _ htask)
  | @call now timer delegate client htask hd =>
    -- the delegate that is stopped is the one in hand
    obtain rfl := some_inj.mp (hd.symm.trans (h.inExpire _ _ _ htask))
    have hp := hnone htask (by simp)
    rw [hp] at hsent ⊢
    obtain rfl := append_cancel_left hsent
    rw [(h.held client _ hd).2.2, if_pos rfl, L.append_end _ rfl rfl]
    exact h.destroy hd (.popping now) (.inr ⟨rfl, by rw [htask]; rfl⟩) id
  | popNext htask hdue =>
    exact quiet (h.pop (by rw [htask]; rfl) hdue.1) hsent (hnone htask (by simp)) rfl rfl rfl
  | popNone htask | updated htask =>
    exact quiet (h.goOn (by rw [htask]; rfl) rfl) hsent (hnone htask (by simp)) rfl rfl rfl
  | @update call calls htask =>
    have hcall : Lifecycle L (s.kernelCall call) := by
      cases call <;> exact h.congr rfl rfl rfl rfl rfl rfl
    have htask' : (s.kernelCall call).task = s.task := by
      cases call <;> rfl
    exact quiet (hcall.goOn (by rw [htask', htask]; rfl) rfl) hsent (hnone htask (by simp))
      (TimerSystem.kernelCall_queue s call) rfl rfl

end Lifecycle

/-! ## Reading the books -/

section Reading

variable {hist : TimerHistory} {timer : ℕ} {d : LocTimerDelegate}

theorem mem_out_iff {o : Out} : o ∈ (outsOf hist).filterMap Traffic.out? ↔ .out (.out o) ∈ hist := by
  rw [← mem_outsOf, mem_filterMap]
  constructor
  · rintro ⟨x, hx, heq⟩
    cases x with
    | out o' => exact some_inj.mp heq ▸ hx
    | processed msg => cases heq
    | sent msg => cases heq
  · exact fun h ↦ ⟨_, h, rfl⟩

theorem mem_processed_iff {msg : LocMsg} :
    msg ∈ (ledger hist).processed ↔ .out (.processed msg) ∈ hist := by
  rw [← mem_outsOf, ledger, mem_filterMap]
  constructor
  · rintro ⟨x, hx, heq⟩
    cases x with
    | processed msg' => exact some_inj.mp heq ▸ hx
    | out o => cases heq
    | sent msg' => cases heq
  · exact fun h ↦ ⟨_, h, rfl⟩

theorem mem_ledger_starts_iff :
    (timer, d) ∈ (ledger hist).starts ↔ .out (.out (.started timer (some d))) ∈ hist := by
  rw [← mem_out_iff, ledger, mem_filterMap]
  constructor
  · rintro ⟨o, ho, heq⟩
    cases o with
    | started timer' delegate =>
      cases delegate with
      | none => cases heq
      | some d' =>
        obtain ⟨rfl, rfl⟩ := some_pair_inj heq
        exact ho
    | stopped timer' delegate => cases heq
    | timeOutCallback timer' d' now => cases heq
  · exact fun h ↦ ⟨_, h, rfl⟩

theorem mem_ledger_ends {o : Out} (h : .out (.out o) ∈ hist) (ho : o.end? = some (timer, d)) :
    (timer, d) ∈ (ledger hist).ends :=
  mem_filterMap.mpr ⟨o, mem_out_iff.mpr h, ho⟩

/-- The removals that are sent are counted by the delegates that have ended. -/
theorem count_remove (h : Books (ledger hist) s) (d : LocTimerDelegate) :
    hist.count (.out (.sent (.timerRemove d))) = ((ledger hist).ends.map Prod.snd).count d := by
  rw [← h.removes, ledger, count_filterMap, countP_filterMap, outsOf,
    countP_filterMap, List.count]
  refine countP_congr fun x _ ↦ ?_
  cases x with
  | event e => simp
  | out o =>
    cases o with
    | processed msg => simp [Traffic.sent?]
    | out o => simp [Traffic.sent?]
    | sent msg => cases msg <;> simp [Traffic.sent?, LocMsg.removed?]

end Reading

/-- A timer is called back for a delegate that it has started. -/
def CallbackStarted (pre : TimerHistory) (x : Item Event Traffic) : Prop :=
  ∀ timer d now, x = .out (.out (.timeOutCallback timer d now)) →
    .out (.out (.started timer (some d))) ∈ pre

/-- A callback is the first thing that ends a delegate. -/
def CallbackFirst (pre : TimerHistory) (x : Item Event Traffic) : Prop :=
  ∀ timer d now, x = .out (.out (.timeOutCallback timer d now)) →
    ∀ timer', .out (.out (.stopped timer' (some d))) ∉ pre ∧
      ∀ now', .out (.out (.timeOutCallback timer' d now')) ∉ pre

/-- A removal is processed after the push of its delegate. -/
def RemovedAfterPush (pre : TimerHistory) (x : Item Event Traffic) : Prop :=
  ∀ d, x = .out (.processed (.timerRemove d)) → .out (.processed (.timerPush d)) ∈ pre

/-- The delegate of a callback is the one that the client was read from. -/
theorem Lifecycle.mem_starts_of_callback (h : Lifecycle L s) (hs : TimerStep s e s' outs)
    {timer : ℕ} {d : LocTimerDelegate} {now : Timespec}
    (ho : .timeOutCallback timer d now ∈ outs) : (timer, d) ∈ L.starts := by
  cases hs with
  | call htask =>
    obtain ⟨rfl, rfl, rfl⟩ := Out.timeOutCallback.inj (mem_singleton.mp ho)
    exact (h.held _ _ (h.inExpire _ _ _ htask)).1
  | _ => simp at ho

variable {hist : TimerHistory}

theorem lifecycle_of_run {clock : Timespec} (hc : clock.Normalized)
    (h : Run TimerSystem.trafficStep (fun s e ↦ Undisturbed s e ∧ InRange s e) (.initial clock)
      hist s) : Lifecycle (ledger hist) s ∧ Always CallbackStarted hist := by
  refine (h.invariant (I := fun hist s ↦ HeapInOrder s ∧ Lifecycle (ledger hist) s ∧
    Always CallbackStarted hist) ⟨.initial hc, .initial, always_nil _⟩ ?_).2
  rintro hist s e s' traffic ⟨horder, hlife, hall⟩ ⟨hundisturbed, hrange⟩ hs
  obtain ⟨outs, sent, hstep, hsent, rfl⟩ := timerStep_of_trafficStep hs
  refine ⟨horder.step hrange hstep, ?_, always_append.mpr ⟨hall, Always.of_forall ?_⟩⟩
  · rw [ledger_append]
    exact hlife.step horder hundisturbed hstep hsent
  · rintro x hx pre timer d now rfl
    have ho : .timeOutCallback timer d now ∈ outs := by simpa [entry] using hx
    have hstart := hlife.mem_starts_of_callback hstep ho
    exact mem_append_left _ (mem_ledger_starts_iff.mp hstart)

theorem callbackFirst_of_books (h : Books (ledger hist) s) :
    Always CallbackFirst hist := by
  rintro pre x post rfl timer d now rfl
  have honce := h.once
  have hends : (ledger (pre ++ .out (.out (.timeOutCallback timer d now)) :: post)).ends
      = (ledger pre).ends ++ (timer, d) :: (ledger post).ends := by
    simp [ledger, outsOf, Traffic.out?, Out.end?]
  rw [hends, map_append, nodup_append] at honce
  have hnot : ∀ timer', (timer', d) ∉ (ledger pre).ends := fun timer' hmem ↦
    honce.2.2 d (mem_map_of_mem hmem) d mem_cons_self rfl
  exact fun timer' ↦ ⟨fun hmem ↦ hnot timer' (mem_ledger_ends hmem rfl),
    fun now' hmem ↦ hnot timer' (mem_ledger_ends hmem rfl)⟩

theorem removedAfterPush_of_books (h : Books (ledger hist) s) :
    Always RemovedAfterPush hist := by
  rintro pre x post rfl d rfl
  have hprocessed : (ledger (pre ++ .out (.processed (.timerRemove d)) :: post)).processed
      = (ledger pre).processed ++ .timerRemove d :: (ledger post).processed := by
    simp [ledger, outsOf, Traffic.processed?]
  exact mem_processed_iff.mp (h.inOrder_processed _ _ _ hprocessed d rfl)

/-- **The life of a delegate.** In every run in which clients do not start or stop timers between
the two halves of `expire` and the delegates that meet in the heap are less than 2³¹ seconds apart:
a timer is called back only for delegates it has started, and not again, and not after a stop; for a
delegate one removal is sent, when it leaves its timer, and processed after the push; no delegate
gets lost on its way; and a delegate whose removal is processed is deleted and not in the heap, so
that the heap holds none that is deleted. -/
theorem delegate_lifecycle_of_run {clock : Timespec} (hc : clock.Normalized) {hist : TimerHistory}
    {s : TimerSystem}
    (h : Run TimerSystem.trafficStep (fun s e ↦ Undisturbed s e ∧ InRange s e) (.initial clock)
      hist s) :
    (Always CallbackStarted hist ∧ Always CallbackFirst hist) ∧
    ((∀ timer d, .out (.out (.started timer (some d))) ∈ hist →
        hist.count (.out (.sent (.timerRemove d))) = if s.mTimer timer = some d then 0 else 1) ∧
      (∀ d, hist.count (.out (.sent (.timerRemove d))) ≤ 1) ∧
      Always RemovedAfterPush hist ∧
      (s.task = .idle → ∀ timer d, .out (.out (.started timer (some d))) ∈ hist →
        .timerPush d ∈ s.queue ∨ d ∈ s.mTree.toList ∨
          hist.count (.out (.sent (.timerRemove d))) = 1)) ∧
    (∀ d, .out (.processed (.timerRemove d)) ∈ hist →
      (s.delegates d.address).deleted = true ∧ d ∉ s.mTree.toList) ∧
    ∀ x ∈ s.mTree.toList, (s.delegates x.address).deleted = false := by
  obtain ⟨hlife, hstarted⟩ := lifecycle_of_run hc h
  have hcount := count_remove hlife.toBooks
  have hone : ∀ p ∈ (ledger hist).ends, hist.count (.out (.sent (.timerRemove p.2))) = 1 := by
    intro p hp
    rw [hcount]
    exact count_eq_one_of_mem hlife.once (mem_map_of_mem hp)
  refine ⟨⟨hstarted, callbackFirst_of_books hlife.toBooks⟩,
    ⟨fun timer d hd ↦ ?_, fun d ↦ ?_, removedAfterPush_of_books hlife.toBooks,
      fun hidle timer d hd ↦ ?_⟩, fun d hd ↦ ?_, fun x hx ↦ hlife.not_deleted hx⟩
  · split
    · next hheld =>
      rw [hcount]
      exact count_eq_zero_of_not_mem (hlife.held timer d hheld).2.1
    · next hheld =>
      exact hone _ ((hlife.left _ (mem_ledger_starts_iff.mpr hd)).resolve_right hheld)
  · rw [hcount]
    exact nodup_iff_count_le_one.mp hlife.once d
  · refine (hlife.kept _ (mem_ledger_starts_iff.mpr hd)).imp_right (.imp_right fun hend ↦ ?_)
    refine hone _ (hend.resolve_right ?_)
    rw [hidle]
    exact fun hnone ↦ by cases hnone
  · have hremove := mem_processed_iff.mpr hd
    exact ⟨(hlife.deleted d.address).mpr ⟨d, rfl, hremove⟩, fun hx ↦ (hlife.stored d hx).2 hremove⟩

/-- A timer that is called back, and another one that is stopped. -/
theorem delegate_lifecycle_of_run_two :
    ∃ hist s, Run TimerSystem.trafficStep (fun s e ↦ Undisturbed s e ∧ InRange s e)
        (.initial ⟨10, 0⟩) hist s ∧
      (.out (.out (.timeOutCallback 0 ⟨0, ⟨11, 0⟩⟩ ⟨11, 5⟩)) ∈ hist ∧
        .out (.processed (.timerRemove ⟨1, ⟨110, 0⟩⟩)) ∈ hist) ∧
      hist.count (.out (.sent (.timerRemove ⟨0, ⟨11, 0⟩⟩))) ≤ 1 ∧
      (s.delegates 1).deleted = true := by
  obtain ⟨hist, s, hrun, hs⟩ := Run.exists_of_runEvents TimerSystem.trafficStep
    (fun s e ↦ Undisturbed s e ∧ InRange s e) (.initial ⟨10, 0⟩)
    [.start 0 1000, .start 1 100000, .task, .task, .task, .task, .task, .task, .tick ⟨11, 5⟩,
      .epollWait, .poll, .poll, .poll, .task, .task, .task, .task, .task, .task, .task, .stop 1,
      .task, .task, .task]
    (fun hist _ ↦ .out (.out (.timeOutCallback 0 ⟨0, ⟨11, 0⟩⟩ ⟨11, 5⟩)) ∈ hist ∧
        .out (.processed (.timerRemove ⟨1, ⟨110, 0⟩⟩)) ∈ hist)
    (by decide +kernel)
  obtain ⟨-, ⟨-, hcount, -⟩, hremoved, -⟩ := delegate_lifecycle_of_run (by decide) hrun
  exact ⟨hist, s, hrun, hs, hcount _, (hremoved _ hs.2).1⟩

/-- Three timers whose times are more than 2³¹ seconds apart. The second one is stopped; the search
does not find it below the third one, which it outranks, and it is deleted in the heap. -/
theorem deleted_in_heap_of_overflow :
    ∃ hist s, Run TimerSystem.trafficStep (fun s e ↦ Undisturbed s e) (.initial ⟨10, 0⟩) hist s ∧
      ∃ x ∈ s.mTree.toList, (s.delegates x.address).deleted = true := by
  exact Run.exists_of_decide
    [.start 0 1000, .task, .task, .task, .task, .tick ⟨1073741834, 0⟩, .start 1 1000, .task, .task,
      .tick ⟨2147483659, 0⟩, .start 2 1000, .task, .task, .task, .task, .stop 1, .task]
    (by decide +kernel)

end MataDevice.Timer
