import MataDevice.MsgQueue.LinkedList

/-!
# The message queue and its thread

`MsgTask::sendMsg` hands a message to `msg_q_snd`, and a thread takes messages with `msg_q_rcv`,
processes and deletes them, until `msg_q_rcv` fails. `msg_q_unblock` makes it fail. Then the thread
destroys the queue, which frees the messages that are left.

Everything that happens under the mutex of the queue is one step. `msg_q_rcv` gives the mutex up
while it waits for the condition, so that a call of it is as many steps as there are waits, and it
wakes up for a signal or for no reason. A caller of `sendMsg` takes part with one step, at which its
`msg_q_snd` has the mutex; the order of the steps is the order in which the mutex is taken.

The queue has been set up. A message is not handed over twice; the state keeps the ones that were.
-/

namespace MataDevice.MsgQueue

/-- The functions that free a message. -/
inductive Dealloc
  | locMsgDestroy
  deriving DecidableEq

inductive MsgQErr
  | success
  | failureGeneral
  | invalidParameter
  | invalidHandle
  | unavailableResource
  | insufficientBuffer
  deriving DecidableEq

/-- `convert_linked_list_err_type`. -/
def convertLinkedListErrType : LinkedListErr → MsgQErr
  | .success => .success
  | .invalidParameter => .invalidParameter
  | .invalidHandle => .invalidHandle
  | .unavailableResource => .unavailableResource
  | .insufficientBuffer => .insufficientBuffer
  | .failureGeneral | .empty => .failureGeneral

structure MsgQ where
  msgList : ListState ℕ Dealloc
  unblocked : Bool

/-- `msg_q_init`. -/
def msgQInit : MsgQ := ⟨linkedListInit, false⟩

/-- `msg_q_snd` with the mutex, and what `malloc` returns in it. -/
def msgQSnd (q : MsgQ) (malloc : Option ℕ) (msgObj : Option ℕ) (dealloc : Dealloc) :
    Option (MsgQ × MsgQErr) :=
  if msgObj = none then some (q, .invalidParameter)
  else if q.unblocked then some (q, .unavailableResource)
  else do
    let (msgList, err) ← linkedListAdd q.msgList malloc msgObj (some dealloc)
    some ({ q with msgList := msgList }, convertLinkedListErrType err)

/-- `msg_q_flush` with the mutex, and the messages it frees. -/
def msgQFlush (q : MsgQ) : Option (MsgQ × List (Dealloc × ℕ)) := do
  let (msgList, freed) ← linkedListFlush q.msgList
  some ({ q with msgList := msgList }, freed)

/-! ## The thread -/

/-- Where the thread is. -/
inductive Runner
  /-- about to call `msg_q_rcv` -/
  | ready
  /-- waiting for the condition, and whether it has been woken up -/
  | waiting (woken : Bool)
  /-- with a message it has taken -/
  | received (msg : ℕ)
  /-- with a message it has processed -/
  | processed (msg : ℕ)
  /-- out of its loop -/
  | exited
  | flushed
  | destroyed
  deriving DecidableEq

/-- `msg_q_rcv` from the condition of its loop on, and what `run` makes of the result. -/
def msgQRcvLoop (q : MsgQ) : Option (MsgQ × Runner) :=
  if linkedListEmpty q.msgList && !q.unblocked then some (q, .waiting false)
  else do
    let (msgList, err, msgObj) ← linkedListRemove q.msgList
    match convertLinkedListErrType err, msgObj with
    | .success, some msg => some ({ q with msgList := msgList }, .received msg)
    | _, _ => some ({ q with msgList := msgList }, .exited)

/-- `msg_q_rcv` with the mutex. -/
def msgQRcv (q : MsgQ) : Option (MsgQ × Runner) :=
  if q.unblocked then some (q, .exited) else msgQRcvLoop q

/-- `pthread_cond_signal` and `pthread_cond_broadcast`: there is one thread that can wait. -/
def Runner.signal : Runner → Runner
  | .waiting _ => .waiting true
  | r => r

structure MsgTask where
  /-- the queue, until it is destroyed -/
  mQ : Option MsgQ
  runner : Runner
  /-- the messages that have been handed to `sendMsg` -/
  handed : List ℕ

inductive Event
  /-- `sendMsg`, with what `malloc` returns in it -/
  | sendMsg (msg : ℕ) (malloc : Option ℕ)
  | rcv
  | wake
  | spuriousWakeup
  | proc
  | delete
  /-- `interrupt`, which calls `msg_q_unblock` -/
  | interrupt
  | flush
  | destroy
  deriving DecidableEq

inductive Output
  /-- what `msg_q_snd` returns, which `sendMsg` ignores -/
  | returned (msg : ℕ) (err : MsgQErr)
  | proc (msg : ℕ)
  /-- `delete` in `run` -/
  | delete (msg : ℕ)
  /-- `LocMsgDestroy`, called for a message that was left in the queue -/
  | destroy (msg : ℕ)
  deriving DecidableEq

namespace MsgTask

def initial : MsgTask := ⟨some msgQInit, .ready, []⟩

/-- The addresses of the elements in the list. -/
def addrs (s : MsgTask) : List ℕ :=
  s.mQ.elim [] fun q ↦ q.msgList.memory.map Prod.fst

/-- What is freed, as output. -/
def destroys (freed : List (Dealloc × ℕ)) : List Output := freed.map fun p ↦ .destroy p.2

def step (s : MsgTask) : Event → Option (MsgTask × List Output)
  | .sendMsg msg malloc => do
    let q ← s.mQ
    -- a message is new, and so is the address of an element
    if msg ∈ s.handed ∨ malloc.any (· ∈ s.addrs) then none
    else
      let (q', err) ← msgQSnd q malloc (some msg) .locMsgDestroy
      -- a failure of `linked_list_add` is signalled too
      some ({
        mQ := some q'
        runner := if q.unblocked then s.runner else s.runner.signal
        handed := s.handed ++ [msg] }, [.returned msg err])
  | .rcv =>
    match s.runner, s.mQ with
    | .ready, some q => (msgQRcv q).map fun (q', runner) ↦
        ({ s with mQ := some q', runner := runner }, [])
    | _, _ => none
  | .wake =>
    match s.runner, s.mQ with
    | .waiting true, some q => (msgQRcvLoop q).map fun (q', runner) ↦
        ({ s with mQ := some q', runner := runner }, [])
    | _, _ => none
  | .spuriousWakeup =>
    match s.runner with
    | .waiting _ => some ({ s with runner := .waiting true }, [])
    | _ => none
  | .proc =>
    match s.runner with
    | .received msg => some ({ s with runner := .processed msg }, [.proc msg])
    | _ => none
  | .delete =>
    match s.runner with
    | .processed msg => some ({ s with runner := .ready }, [.delete msg])
    | _ => none
  | .interrupt => s.mQ.map fun q ↦
      ({ s with
        mQ := some { q with unblocked := true }
        runner := if q.unblocked then s.runner else s.runner.signal }, [])
  | .flush =>
    match s.runner, s.mQ with
    | .exited, some q => (msgQFlush q).map fun (q', freed) ↦
        ({ s with mQ := some q', runner := .flushed }, destroys freed)
    | _, _ => none
  | .destroy =>
    match s.runner, s.mQ with
    | .flushed, some q => (linkedListFlush q.msgList).map fun (_, freed) ↦
        ({ s with mQ := none, runner := .destroyed }, destroys freed)
    | _, _ => none

end MsgTask

end MataDevice.MsgQueue
