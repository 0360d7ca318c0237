import MataDevice.Lib.History

/-!
# The events of the Bluetooth controller

The vendor library sends commands of its own to the controller, with `transmit_cb`, and leaves a
callback for the answer. `HandleIncomingEvent` looks at every event of the controller: the Command
Complete event of that command goes to the callback, everything else to the stack.

The pending command is a global variable, so that it outlives the interface object that is made by
`Initialize` and deleted by `Shutdown`. An event is read at fixed offsets, whatever its length; what
lies behind it in memory is part of the step. A callback may send the next command while it is
called; the old one has been taken out before, so that this is a step of its own here.
-/

namespace MataDevice.Bluetooth

open List

/-- The global `internal_command`. A callback is a function pointer, null for `none`. -/
structure InternalCommand where
  cb : Option ℕ
  opcode : UInt16
  deriving DecidableEq, Repr

/-- `g_vendor_interface`: none, one whose `Open` failed, or an open one. -/
inductive Interface
  | none
  | failed
  | opened
  deriving DecidableEq, Repr

structure Routing where
  gVendorInterface : Interface
  internalCommand : InternalCommand
  /-- The command was registered in an earlier cycle. The code does not keep this. -/
  stale : Bool
  deriving DecidableEq, Repr

inductive Event
  /-- `Initialize`, and whether its `Open` succeeds. -/
  | initializeInterface (opens : Bool)
  | shutdown
  /-- `transmit_cb`. -/
  | transmit (opcode : UInt16) (callback : Option ℕ)
  /-- `HandleIncomingEvent`, with the bytes behind the packet. -/
  | packet (bytes : List UInt8) (behind : ℕ → UInt8)

inductive Output
  /-- A byte of a packet of some size is read. -/
  | read (index size : ℕ)
  /-- A packet is given to the callback of an internal command. -/
  | internalCallback (cb : ℕ) (bytes : List UInt8)
  /-- A packet is given to the stack. -/
  | eventCb (bytes : List UInt8)
  deriving DecidableEq, Repr

def hciCommandCompleteEvent : UInt8 := 0x0E

def hciEventPreambleSize : ℕ := 2

/-- The number of packets comes before the opcode. -/
def opcodeOffset : ℕ := hciEventPreambleSize + 1

/-- `packet[index]`, which does not look at the size. -/
def byteAt (bytes : List UInt8) (behind : ℕ → UInt8) (index : ℕ) : UInt8 :=
  bytes.getD index (behind index)

/-- The opcode as it is read from a packet. -/
def opcodeOf (bytes : List UInt8) (behind : ℕ → UInt8) : UInt16 :=
  (byteAt bytes behind opcodeOffset).toUInt16 |||
    (byteAt bytes behind (opcodeOffset + 1)).toUInt16 <<< 8

/-- `internal_command_event_match`, with what it reads. -/
def internalCommandEventMatch (command : InternalCommand) (bytes : List UInt8)
    (behind : ℕ → UInt8) : Bool × List Output :=
  if byteAt bytes behind 0 ≠ hciCommandCompleteEvent then (false, [.read 0 bytes.length])
  else
    (opcodeOf bytes behind = command.opcode,
      [.read 0 bytes.length, .read opcodeOffset bytes.length,
        .read (opcodeOffset + 1) bytes.length])

namespace Routing

def initial : Routing := ⟨.none, ⟨none, 0⟩, false⟩

variable (s : Routing)

def handleIncomingEvent (bytes : List UInt8) (behind : ℕ → UInt8) : Routing × List Output :=
  match s.internalCommand.cb with
  | none => (s, [.eventCb bytes])
  | some cb =>
    match internalCommandEventMatch s.internalCommand bytes behind with
    | (true, reads) =>
      ({ s with internalCommand := { s.internalCommand with cb := none } },
        reads ++ [.internalCallback cb bytes])
    | (false, reads) => (s, reads ++ [.eventCb bytes])

/-- A step. Without an open interface no event comes and no command is sent, and `Shutdown` without
an interface ends the process. -/
def step : Event → Option (Routing × List Output)
  | .initializeInterface opens =>
    if s.gVendorInterface = .none then
      some ({ s with gVendorInterface := if opens then .opened else .failed }, [])
    else some (s, [])
  | .shutdown =>
    if s.gVendorInterface = .none then none
    else some ({ s with gVendorInterface := .none, stale := true }, [])
  | .transmit opcode callback =>
    if s.gVendorInterface = .opened then
      some ({ s with internalCommand := ⟨callback, opcode⟩, stale := false }, [])
    else none
  | .packet bytes behind =>
    if s.gVendorInterface = .opened then some (s.handleIncomingEvent bytes behind) else none

/-! ## What the routing is meant to do -/

/-- What the environment keeps to: the library sends a command only after the callback of the one
before in this cycle, and a packet has two bytes at least. -/
def Allowed : Event → Prop
  | .transmit _ _ => s.internalCommand.cb = none ∨ s.stale = true
  | .packet bytes _ => 2 ≤ bytes.length
  | _ => True

/-- The packet is a Command Complete event for an opcode. -/
def IsCommandComplete (opcode : UInt16) (bytes : List UInt8) : Prop :=
  opcodeOffset + 1 < bytes.length ∧ bytes.head? = some hciCommandCompleteEvent ∧
    opcodeOf bytes (fun _ ↦ 0) = opcode

instance (opcode : UInt16) (bytes : List UInt8) : Decidable (IsCommandComplete opcode bytes) :=
  inferInstanceAs (Decidable (_ ∧ _ ∧ _))

/-- The callback a packet should go to, given the callback that waits and its opcode. -/
def receiver (awaited : Option (ℕ × UInt16)) (bytes : List UInt8) : Option ℕ :=
  match awaited with
  | some (cb, opcode) => if IsCommandComplete opcode bytes then some cb else none
  | none => none

/-- The callback that waits after one more step: the one of the last command of this cycle, until
the first Command Complete event with its opcode. -/
def nextAwaited (awaited : Option (ℕ × UInt16)) : Event → Option (ℕ × UInt16)
  | .initializeInterface _ => awaited
  | .shutdown => none
  | .transmit opcode callback => callback.map fun cb ↦ (cb, opcode)
  | .packet bytes _ => if (receiver awaited bytes).isSome then none else awaited

/-- Who gets each packet: the callback that waits, or the stack (`none`). -/
def route (awaited : Option (ℕ × UInt16)) : List Event → List (List UInt8 × Option ℕ)
  | [] => []
  | .packet bytes behind :: es =>
    (bytes, receiver awaited bytes) :: route (nextAwaited awaited (.packet bytes behind)) es
  | e :: es => route (nextAwaited awaited e) es

theorem route_append (awaited : Option (ℕ × UInt16)) (es es' : List Event) :
    route awaited (es ++ es') = route awaited es ++ route (es.foldl nextAwaited awaited) es' := by
  induction es generalizing awaited with
  | nil => rfl
  | cons e es ih =>
    cases e with
    | packet bytes behind =>
      rw [cons_append, route, route, ih, foldl_cons, cons_append]
    | initializeInterface opens => exact ih _
    | shutdown => exact ih _
    | transmit opcode callback => exact ih _

/-- Who was given a packet. -/
def delivery : Output → Option (List UInt8 × Option ℕ)
  | .read _ _ => none
  | .internalCallback cb bytes => some (bytes, some cb)
  | .eventCb bytes => some (bytes, none)

/-- The events are routed: each packet is read inside its bounds and given to one receiver, the
callback that waits for it or the stack. -/
structure Routed (hist : List (Item Event Output)) : Prop where
  reads : ∀ index size, .read index size ∈ outsOf hist → index < size
  deliveries : (outsOf hist).filterMap delivery = route none (eventsOf hist)

/-- While a command waits, a Command Complete event is long enough for its opcode, and if the
command was registered in an earlier cycle, it is not about the same opcode. -/
def Routable : Event → Prop
  | .packet bytes behind =>
    s.internalCommand.cb ≠ none → byteAt bytes behind 0 = hciCommandCompleteEvent →
      opcodeOffset + 1 < bytes.length ∧
        (s.stale = true → opcodeOf bytes behind ≠ s.internalCommand.opcode)
  | _ => True

/-- The condition on the steps of a run. -/
def Guard (e : Event) : Prop := s.Allowed e ∧ s.Routable e

instance : ∀ e, Decidable (s.Allowed e)
  | .transmit _ _ => inferInstanceAs (Decidable (_ ∨ _))
  | .packet _ _ => inferInstanceAs (Decidable (_ ≤ _))
  | .initializeInterface _ | .shutdown => inferInstanceAs (Decidable True)

instance : ∀ e, Decidable (s.Routable e)
  | .packet _ _ => inferInstanceAs (Decidable (_ → _))
  | .initializeInterface _ | .shutdown | .transmit _ _ => inferInstanceAs (Decidable True)

instance (e : Event) : Decidable (s.Guard e) := inferInstanceAs (Decidable (_ ∧ _))

/-! ## Runs -/

/-- The callback that waits, as the state has it. -/
def awaited : Option (ℕ × UInt16) :=
  if s.stale then none else s.internalCommand.cb.map fun cb ↦ (cb, s.internalCommand.opcode)

variable {s} {s' : Routing} {hist : List (Item Event Output)} {e : Event} {outs : List Output}
  {bytes : List UInt8} {behind : ℕ → UInt8}

/-- What is behind a packet does not matter where it is read inside its bounds. -/
theorem byteAt_of_lt {index : ℕ} (h : index < bytes.length) (behind' : ℕ → UInt8) :
    byteAt bytes behind index = byteAt bytes behind' index := by
  simp [byteAt, h]

theorem opcodeOf_of_lt (h : opcodeOffset + 1 < bytes.length) (behind behind' : ℕ → UInt8) :
    opcodeOf bytes behind = opcodeOf bytes behind' := by
  rw [opcodeOf, opcodeOf, byteAt_of_lt (Nat.lt_of_succ_lt h) behind', byteAt_of_lt h behind']

theorem isCommandComplete_iff (h : opcodeOffset + 1 < bytes.length) (behind : ℕ → UInt8)
    (opcode : UInt16) :
    IsCommandComplete opcode bytes ↔
      byteAt bytes behind 0 = hciCommandCompleteEvent ∧ opcodeOf bytes behind = opcode := by
  have hhead : bytes.head? = some (byteAt bytes behind 0) := by
    cases bytes with
    | nil => simp at h
    | cons b bytes => rfl
  rw [IsCommandComplete, and_iff_right h, hhead, Option.some_inj,
    opcodeOf_of_lt h behind (fun _ ↦ 0)]

/-- A packet while no command waits, in the code and in its cycle. -/
theorem handleIncomingEvent_of_none (h : s.internalCommand.cb = none) :
    s.handleIncomingEvent bytes behind = (s, [.eventCb bytes]) := by
  rw [handleIncomingEvent, h]

/-- What the handler does with a packet while a command waits. -/
theorem handleIncomingEvent_of_some {cb : ℕ} (h : s.internalCommand.cb = some cb) :
    s.handleIncomingEvent bytes behind =
      if byteAt bytes behind 0 ≠ hciCommandCompleteEvent then
        (s, [.read 0 bytes.length, .eventCb bytes])
      else if opcodeOf bytes behind = s.internalCommand.opcode then
        ({ s with internalCommand := { s.internalCommand with cb := none } },
          [.read 0 bytes.length, .read opcodeOffset bytes.length,
            .read (opcodeOffset + 1) bytes.length, .internalCallback cb bytes])
      else
        (s, [.read 0 bytes.length, .read opcodeOffset bytes.length,
          .read (opcodeOffset + 1) bytes.length, .eventCb bytes]) := by
  unfold handleIncomingEvent
  rw [h]
  dsimp only
  rw [internalCommandEventMatch]
  split
  · next hmatch =>
    split at hmatch
    · cases hmatch
    · next hcode =>
      obtain ⟨hop, rfl⟩ := Prod.mk.inj hmatch
      rw [if_neg hcode, if_pos (of_decide_eq_true hop)]
      rfl
  · next hmatch =>
    split at hmatch
    · next hcode =>
      obtain ⟨-, rfl⟩ := Prod.mk.inj hmatch
      rw [if_pos hcode]
      rfl
    · next hcode =>
      obtain ⟨hop, rfl⟩ := Prod.mk.inj hmatch
      rw [if_neg hcode, if_neg (of_decide_eq_false hop)]
      rfl

/-- Under the condition, the handler looks for the callback that waits where it should. -/
theorem receiver_awaited {cb : ℕ} (hcb : s.internalCommand.cb = some cb)
    (hroutable : s.Routable (.packet bytes behind)) :
    receiver s.awaited bytes =
      if byteAt bytes behind 0 = hciCommandCompleteEvent ∧
          opcodeOf bytes behind = s.internalCommand.opcode then some cb
      else none := by
  cases hstale : s.stale with
  | true =>
    have hnone : s.awaited = none := by simp [awaited, hstale]
    rw [hnone, if_neg]
    · rfl
    · rintro ⟨hcode, hop⟩
      exact (hroutable (by simp [hcb]) hcode).2 hstale hop
  | false =>
    have hsome : s.awaited = some (cb, s.internalCommand.opcode) := by
      simp [awaited, hstale, hcb]
    rw [hsome, receiver]
    by_cases hlength : opcodeOffset + 1 < bytes.length
    · simp only [isCommandComplete_iff hlength behind]
    · rw [if_neg fun hcc ↦ hlength hcc.1, if_neg]
      rintro ⟨hcode, -⟩
      exact hlength (hroutable (by simp [hcb]) hcode).1

/-- A packet that the condition allows goes to the callback that waits for it, or to the stack. -/
theorem handleIncomingEvent_routed (hallowed : 2 ≤ bytes.length)
    (hroutable : s.Routable (.packet bytes behind))
    (h : s.handleIncomingEvent bytes behind = (s', outs)) :
    (∀ index size, .read index size ∈ outs → index < size) ∧
      outs.filterMap delivery = [(bytes, receiver s.awaited bytes)] ∧
      s'.awaited = nextAwaited s.awaited (.packet bytes behind) := by
  cases hcb : s.internalCommand.cb with
  | none =>
    rw [handleIncomingEvent_of_none hcb] at h
    obtain ⟨rfl, rfl⟩ := Prod.mk.inj h
    have hnone : s.awaited = none := by simp [awaited, hcb]
    rw [hnone]
    exact ⟨by simp, rfl, rfl⟩
  | some cb =>
    rw [handleIncomingEvent_of_some hcb] at h
    rw [nextAwaited, receiver_awaited hcb hroutable]
    split at h
    · next hcode =>
      obtain ⟨rfl, rfl⟩ := Prod.mk.inj h
      rw [if_neg fun hmatch ↦ hcode hmatch.1]
      refine ⟨?_, rfl, rfl⟩
      simp only [mem_cons, Output.read.injEq, reduceCtorEq, not_mem_nil, or_false]
      omega
    · next hcode =>
      rw [not_not] at hcode
      have hlength := (hroutable (by simp [hcb]) hcode).1
      split at h
      · next hop =>
        obtain ⟨rfl, rfl⟩ := Prod.mk.inj h
        rw [if_pos ⟨hcode, hop⟩]
        refine ⟨?_, rfl, by simp [awaited]⟩
        simp only [mem_cons, Output.read.injEq, reduceCtorEq, not_mem_nil, or_false]
        omega
      · next hop =>
        obtain ⟨rfl, rfl⟩ := Prod.mk.inj h
        rw [if_neg fun hmatch ↦ hop hmatch.2]
        refine ⟨?_, rfl, rfl⟩
        simp only [mem_cons, Output.read.injEq, reduceCtorEq, not_mem_nil, or_false]
        omega

/-- What a run keeps: the events so far are routed, and the state has the callback that waits. -/
structure Tracks (s : Routing) (hist : List (Item Event Output)) : Prop where
  routed : Routed hist
  awaited_eq : s.awaited = (eventsOf hist).foldl nextAwaited none

/-- A step without a packet. -/
theorem Tracks.quiet (h : s.Tracks hist) (hpacket : ∀ bytes behind, e ≠ .packet bytes behind)
    (hnext : s'.awaited = nextAwaited s.awaited e) : s'.Tracks (hist ++ entry e []) where
  routed :=
    { reads := by simpa using h.routed.reads
      deliveries := by
        rw [outsOf_append_entry, eventsOf_append_entry, List.append_nil, route_append,
          h.routed.deliveries]
        cases e with
        | packet bytes behind => exact absurd rfl (hpacket bytes behind)
        | initializeInterface opens => simp [route]
        | shutdown => simp [route]
        | transmit opcode callback => simp [route] }
  awaited_eq := by
    rw [hnext, h.awaited_eq, eventsOf_append_entry, foldl_append, foldl_cons,
      foldl_nil]

theorem Tracks.packet (h : s.Tracks hist) (hg : s.Guard (.packet bytes behind))
    (hs : s.handleIncomingEvent bytes behind = (s', outs)) :
    s'.Tracks (hist ++ entry (.packet bytes behind) outs) := by
  obtain ⟨hreads, hdelivery, hnext⟩ := handleIncomingEvent_routed hg.1 hg.2 hs
  refine ⟨⟨?_, ?_⟩, ?_⟩
  · intro index size hmem
    rw [outsOf_append_entry, mem_append] at hmem
    exact hmem.elim (h.routed.reads index size) (hreads index size)
  · rw [outsOf_append_entry, eventsOf_append_entry, filterMap_append, route_append,
      h.routed.deliveries, hdelivery, h.awaited_eq]
    rfl
  · rw [hnext, h.awaited_eq, eventsOf_append_entry, foldl_append, foldl_cons,
      foldl_nil]

theorem tracks_initial : initial.Tracks [] := ⟨⟨by simp, rfl⟩, rfl⟩

theorem Tracks.step (h : s.Tracks hist) (hg : s.Guard e) (hs : s.step e = some (s', outs)) :
    s'.Tracks (hist ++ entry e outs) := by
  cases e with
  | initializeInterface opens =>
    rw [Routing.step] at hs
    split at hs
    · obtain ⟨rfl, rfl⟩ := some_pair_inj hs
      exact h.quiet (by simp) rfl
    · obtain ⟨rfl, rfl⟩ := some_pair_inj hs
      exact h.quiet (by simp) rfl
  | shutdown =>
    obtain ⟨-, heq⟩ := Option.ite_none_left_eq_some.mp hs
    obtain ⟨rfl, rfl⟩ := some_pair_inj heq
    exact h.quiet (by simp) (by simp [awaited, nextAwaited])
  | transmit opcode callback =>
    obtain ⟨-, rfl, rfl⟩ := ite_pair_inj hs
    exact h.quiet (by simp) (by simp [awaited, nextAwaited])
  | packet bytes behind =>
    obtain ⟨-, heq⟩ := Option.ite_none_right_eq_some.mp hs
    exact h.packet hg (Option.some_inj.mp heq)

/-- In every run whose packets meet the condition, the events are routed. -/
theorem routed_of_run (h : Run step Guard initial hist s) : Routed hist := by
  have htracks := h.invariant (I := fun hist s ↦ s.Tracks hist) tracks_initial ?_
  · exact htracks.routed
  · intro hist s e s' outs hI hg hs
    exact hI.step hg hs

/-- A command is answered after an event of another kind, sends the next one, and a shutdown comes
before that one is answered. -/
theorem routed_of_run_cycles :
    ∃ hist s, Run step Guard initial hist s ∧
      (outsOf hist).filterMap delivery =
        [([0x0F, 0x04, 0, 1, 0x03, 0x0C], none), ([0x0E, 0x04, 1, 0x03, 0x0C, 0], some 7),
          ([0x0E, 0x04, 1, 0x05, 0x10, 0], none)] ∧ Routed hist := by
  obtain ⟨hist, s, hrun, hend⟩ := Run.exists_of_runEvents step Guard initial
    [.initializeInterface true, .transmit 0x0C03 (some 7),
      .packet [0x0F, 0x04, 0, 1, 0x03, 0x0C] (fun _ ↦ 0),
      .packet [0x0E, 0x04, 1, 0x03, 0x0C, 0] (fun _ ↦ 0), .transmit 0x0C03 (some 8), .shutdown,
      .initializeInterface true, .packet [0x0E, 0x04, 1, 0x05, 0x10, 0] (fun _ ↦ 0)]
    (fun hist _ ↦ (outsOf hist).filterMap delivery =
      [([0x0F, 0x04, 0, 1, 0x03, 0x0C], none), ([0x0E, 0x04, 1, 0x03, 0x0C, 0], some 7),
        ([0x0E, 0x04, 1, 0x05, 0x10, 0], none)]) (by decide +kernel)
  exact ⟨hist, s, hrun, hend, routed_of_run hrun⟩

/-- A Command Complete event of two bytes is read behind its end. -/
theorem not_routed : ¬∀ hist s, Run step Allowed initial hist s → Routed hist := by
  intro hrouted
  obtain ⟨hist, s, hrun, hend⟩ := Run.exists_of_runEvents step Allowed initial
    [.initializeInterface true, .transmit 0x0C03 (some 7), .packet [0x0E, 0x00] (fun _ ↦ 0)]
    (fun hist _ ↦ Output.read 3 2 ∈ outsOf hist) (by decide +kernel)
  exact absurd ((hrouted hist s hrun).reads 3 2 hend) (by decide)

end Routing

end MataDevice.Bluetooth
