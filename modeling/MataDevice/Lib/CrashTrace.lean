import Mathlib.Tactic

/-!
# Programs that can be cut off between writes

A program over a persistent state is run from a state and leaves two things behind: the states it
passed through, one for each of its atomic writes and in their order, and its result. The result is
`none` when the program was stopped by a fault, in which case the writes made so far still stand.

Keeping the intermediate states is what lets one definition serve two readings. Run to its end, a
program leaves the last state of its trace; cut off by a power loss, it leaves any other one of
them. `CrashReach` is the set of states that any sequence of calls can leave behind when every call
may be cut off after any of its writes.

## Rules

`Prog.Triple P p C Q` says that from a state with `P` the program keeps every state of its trace
within the crash condition `C`, and that if it returns `a` it does so in a state with `Q a`. The
rules follow the constructors of programs, and `CrashReach.induction` turns a crash condition that
every call preserves into an invariant of all runs.
-/

namespace MataDevice

variable {σ α β ι : Type}

/-- What running a program leaves behind. -/
structure Outcome (σ α : Type) where
  /-- The states after each write, in order. -/
  trace : List σ
  /-- The result, or `none` if the program was stopped by a fault. -/
  result : Option α

/-- The state a finished run is in: the last state of the trace, or the initial one. -/
def Outcome.final (o : Outcome σ α) (s : σ) : σ := o.trace.getLastD s

/-- The state a run is in once it has made `k` of its writes, or all of them if it makes fewer. -/
def Outcome.after (o : Outcome σ α) (k : ℕ) (s : σ) : σ := (o.trace.take k).getLastD s

theorem Outcome.after_of_length_le {o : Outcome σ α} {k : ℕ} {s : σ} (h : o.trace.length ≤ k) :
    o.after k s = o.final s := by
  rw [Outcome.after, List.take_of_length_le h, Outcome.final]

/-- A program over a persistent state. -/
def Prog (σ α : Type) := σ → Outcome σ α

namespace Prog

/-- Return a value without writing. -/
def ret (a : α) : Prog σ α := fun _ ↦ ⟨[], some a⟩

/-- Stop without returning. -/
def fault : Prog σ α := fun _ ↦ ⟨[], none⟩

/-- Read the whole state. -/
def read : Prog σ σ := fun s ↦ ⟨[], some s⟩

/-- One atomic write: replace the state. -/
def write (s : σ) : Prog σ Unit := fun _ ↦ ⟨[s], some ()⟩

/-- Run `p`, then `f` on its result from the state `p` left. -/
def andThen (p : Prog σ α) (f : α → Prog σ β) : Prog σ β := fun s ↦
  match (p s).result with
  | none => ⟨(p s).trace, none⟩
  | some a =>
    let o := f a ((p s).final s)
    ⟨(p s).trace ++ o.trace, o.result⟩

instance : Monad (Prog σ) where
  pure := ret
  bind := andThen

/-! ## Running composed programs -/

@[simp] theorem pure_apply (a : α) (s : σ) : (pure a : Prog σ α) s = ⟨[], some a⟩ := rfl

@[simp] theorem fault_apply (s : σ) : (fault : Prog σ α) s = ⟨[], none⟩ := rfl

@[simp] theorem read_apply (s : σ) : (read : Prog σ σ) s = ⟨[], some s⟩ := rfl

@[simp] theorem write_apply (s t : σ) : write t s = ⟨[t], some ()⟩ := rfl

variable {p : Prog σ α} {f : α → Prog σ β}

/-- Running a composition whose first part returns. -/
theorem bind_apply_some {s : σ} {t : List σ} {a : α} (h : p s = ⟨t, some a⟩) :
    (p >>= f) s = ⟨t ++ (f a (t.getLastD s)).trace, (f a (t.getLastD s)).result⟩ := by
  change andThen p f s = _
  rw [andThen, h]
  rfl

/-- Running a composition whose first part stops. -/
theorem bind_apply_none {s : σ} {t : List σ} (h : p s = ⟨t, none⟩) : (p >>= f) s = ⟨t, none⟩ := by
  change andThen p f s = _
  rw [andThen, h]

@[simp] theorem read_bind_apply (f : σ → Prog σ β) (s : σ) : (read >>= f) s = f s s := by
  rw [bind_apply_some (read_apply s)]
  rfl

theorem write_bind_apply (t : σ) (f : Unit → Prog σ β) (s : σ) :
    (write t >>= f) s = ⟨t :: (f () t).trace, (f () t).result⟩ := by
  rw [bind_apply_some (write_apply s t)]
  rfl

/-! ## Triples -/

/-- From a state with `P`, every state `p` passes through has `C`, and if `p` returns `a` then it
does so in a state with `Q a`. -/
def Triple (P : σ → Prop) (p : Prog σ α) (C : σ → Prop) (Q : α → σ → Prop) : Prop :=
  ∀ s, P s → (∀ t ∈ (p s).trace, C t) ∧ ∀ a, (p s).result = some a → Q a ((p s).final s)

variable {P P' C : σ → Prop} {Q Q' : α → σ → Prop} {R : β → σ → Prop}

theorem triple_pure (a : α) (h : ∀ s, P s → Q a s) : Triple P (pure a) C Q := by
  intro s hs
  refine ⟨by simp, fun b hb ↦ ?_⟩
  obtain rfl : a = b := by simpa using hb
  exact h s hs

/-- The composition rule: the crash condition holds of both parts. -/
theorem triple_bind (hp : Triple P p C Q)
    (hf : ∀ a, Triple (Q a) (f a) C R) : Triple P (p >>= f) C R := by
  intro s hs
  obtain ⟨hC, hQ⟩ := hp s hs
  cases hr : (p s).result with
  | none =>
    have hps : p s = ⟨(p s).trace, none⟩ := by rw [← hr]
    rw [bind_apply_none hps]
    exact ⟨hC, by simp⟩
  | some a =>
    have hps : p s = ⟨(p s).trace, some a⟩ := by rw [← hr]
    obtain ⟨hC', hR⟩ := hf a _ (hQ a hr)
    rw [bind_apply_some hps]
    refine ⟨fun t ht ↦ ?_, fun b hb ↦ ?_⟩
    · rcases List.mem_append.mp ht with ht | ht
      · exact hC t ht
      · exact hC' t ht
    -- the second part starts in the state that the first one wrote last
    · have hlast : ((p s).trace ++ (f a ((p s).trace.getLastD s)).trace).getLastD s
          = (f a ((p s).trace.getLastD s)).trace.getLastD ((p s).trace.getLastD s) := by
        simp only [List.getLastD_eq_getLast?, List.getLast?_append]
        cases (f a _).trace.getLast? <;> rfl
      rw [Outcome.final, hlast]
      exact hR b hb

theorem triple_ite {c : Prop} [Decidable c] {p q : Prog σ α}
    (hp : c → Triple P p C Q) (hq : ¬c → Triple P q C Q) :
    Triple P (if c then p else q) C Q := by
  split
  · next h => exact hp h
  · next h => exact hq h

theorem Triple.conseq (h : Triple P' p C Q') (hP : ∀ s, P s → P' s)
    (hQ : ∀ a s, Q' a s → Q a s) : Triple P p C Q := by
  intro s hs
  obtain ⟨hC, hR⟩ := h s (hP s hs)
  exact ⟨hC, fun a ha ↦ hQ a _ (hR a ha)⟩

end Prog

/-! ## Runs of calls that can be cut off -/

/-- The states that sequences of calls can leave behind from `s₀`, when every call may be cut off
after any one of its writes. A call that makes no write leaves the state it started from, so it
needs no constructor of its own. -/
inductive CrashReach (call : ι → Prog σ α) (s₀ : σ) : σ → Prop
  | start : CrashReach call s₀ s₀
  | cut {s t : σ} (i : ι) : CrashReach call s₀ s → t ∈ (call i s).trace → CrashReach call s₀ t

/-- A condition that holds at the start and that no call leaves at any of its writes holds of every
state any run can leave behind. -/
theorem CrashReach.induction {call : ι → Prog σ α} {s₀ s : σ} {I : σ → Prop}
    (h : CrashReach call s₀ s) (h₀ : I s₀) (hcall : ∀ i, Prog.Triple I (call i) I fun _ _ ↦ True) :
    I s := by
  induction h with
  | start => exact h₀
  | cut i _ ht ih => exact (hcall i _ ih).1 _ ht

end MataDevice
