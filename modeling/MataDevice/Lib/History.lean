import Mathlib.Tactic

/-!
# Runs and their histories

A system takes one event at a time, may refuse it, and answers it with a list of outputs. A run of
the system is kept together with its history: the events in their order, each followed by the
outputs it caused. Properties of runs are then of two kinds. An invariant relates the history so far
to the state; it is proved by `Run.invariant`, from one step. A property of the history alone says
what has to come before an item of it (`Always`) or after it (`FollowedBy`), or what the last item
of a kind was (`latest`); the lemmas say what appending does to each of them.

A run carries a guard, the condition that every one of its steps met in the state before it. A law
that a system does not keep in general is stated for the runs with a guard under which it does.
-/

namespace MataDevice

open List

variable {σ ε ο ι : Type}

/-! ## Successful steps -/

/-- A step that succeeds has one result. -/
theorem some_pair_inj {α β : Type*} {a a' : α} {b b' : β} (h : some (a, b) = some (a', b')) :
    a = a' ∧ b = b' :=
  Prod.mk.inj (Option.some_inj.mp h)

/-- A step that is refused without its condition. -/
theorem ite_pair_inj {α β : Type*} {p : Prop} [Decidable p] {a a' : α} {b b' : β}
    (h : (if p then some (a, b) else none) = some (a', b')) : p ∧ a = a' ∧ b = b' :=
  (Option.ite_none_right_eq_some.mp h).imp_right some_pair_inj

/-! ## Properties of histories -/

/-- Every item of the history satisfies `P` together with the items before it. -/
def Always (P : List ι → ι → Prop) (l : List ι) : Prop :=
  ∀ pre x post, l = pre ++ x :: post → P pre x

theorem always_nil (P : List ι → ι → Prop) : Always P [] := by
  intro pre x post h
  simp at h

variable {l : List ι}

theorem always_append {P : List ι → ι → Prop} {l' : List ι} :
    Always P (l ++ l') ↔ Always P l ∧ Always (fun pre ↦ P (l ++ pre)) l' := by
  constructor
  · intro h
    refine ⟨fun pre x post hl ↦ h pre x (post ++ l') ?_, fun pre x post hl ↦ h (l ++ pre) x post ?_⟩
    · rw [hl, append_assoc, cons_append]
    · rw [hl, append_assoc]
  · rintro ⟨hl, hl'⟩ pre x post h
    rcases append_eq_append_iff.mp h with ⟨mid, rfl, hmid⟩ | ⟨mid, rfl, hmid⟩
    · exact hl' mid x post hmid
    · -- `x` is the last item of `l` or the first one of `l'`
      cases mid with
      | nil =>
        have hfirst := hl' [] x post hmid.symm
        rwa [List.append_nil, List.append_nil] at hfirst
      | cons y mid =>
        obtain ⟨rfl, rfl⟩ := cons_eq_cons.mp hmid
        exact hl pre x mid rfl

theorem always_concat {P : List ι → ι → Prop} {x : ι} :
    Always P (l ++ [x]) ↔ Always P l ∧ P l x := by
  rw [always_append]
  refine and_congr_right fun _ ↦ ⟨fun h ↦ ?_, fun h pre y post hl ↦ ?_⟩
  · have hx : P (l ++ []) x := h [] x [] rfl
    rwa [List.append_nil] at hx
  · cases pre with
    | nil =>
      obtain ⟨rfl, -⟩ := cons_eq_cons.mp hl
      rwa [List.append_nil]
    | cons z pre => simp at hl

theorem Always.of_forall {P : List ι → ι → Prop} (h : ∀ x ∈ l, ∀ pre, P pre x) :
    Always P l := by
  rintro pre x post rfl
  exact h x (by simp) pre

/-- Every item with `p` comes before an item with `q`. -/
def FollowedBy (p q : ι → Prop) (l : List ι) : Prop :=
  ∀ pre x post, l = pre ++ x :: post → p x → ∃ y ∈ post, q y

theorem followedBy_of_forall_not {p q : ι → Prop} (h : ∀ x ∈ l, ¬p x) :
    FollowedBy p q l := by
  rintro pre x post rfl hx
  exact absurd hx (h x (by simp))

theorem followedBy_append {p q : ι → Prop} {l' : List ι} :
    FollowedBy p q (l ++ l') ↔ (FollowedBy p q l ∨ ∃ y ∈ l', q y) ∧ FollowedBy p q l' := by
  constructor
  · intro h
    refine ⟨?_, fun pre x post hl ↦ h (l ++ pre) x post (by rw [hl, append_assoc])⟩
    by_cases hq : ∃ y ∈ l', q y
    · exact Or.inr hq
    · refine Or.inl fun pre x post hl hx ↦ ?_
      obtain ⟨y, hy, hqy⟩ := h pre x (post ++ l') (by rw [hl]; simp) hx
      rcases mem_append.mp hy with hy | hy
      · exact ⟨y, hy, hqy⟩
      · exact absurd ⟨y, hy, hqy⟩ hq
  · rintro ⟨hl, hl'⟩ pre x post h hx
    rcases append_eq_append_iff.mp h with ⟨mid, rfl, hmid⟩ | ⟨mid, rfl, hmid⟩
    · exact hl' mid x post hmid hx
    · cases mid with
      | nil => exact hl' [] x post hmid.symm hx
      | cons z mid =>
        obtain ⟨rfl, rfl⟩ := cons_eq_cons.mp hmid
        rcases hl with hl | ⟨y, hy, hqy⟩
        · obtain ⟨y, hy, hqy⟩ := hl pre x mid rfl hx
          exact ⟨y, mem_append_left _ hy, hqy⟩
        · exact ⟨y, mem_append_right _ hy, hqy⟩

/-- Items without `p` do not add anything that would have to be followed. -/
theorem FollowedBy.append {p q : ι → Prop} {l' : List ι} (h : FollowedBy p q l)
    (hl' : ∀ x ∈ l', ¬p x) : FollowedBy p q (l ++ l') :=
  followedBy_append.mpr ⟨Or.inl h, followedBy_of_forall_not hl'⟩

/-- What `f` reads off the last item that it applies to. -/
def latest {β : Type} (f : ι → Option β) (l : List ι) : Option β := l.reverse.findSome? f

@[simp] theorem latest_nil {β : Type} (f : ι → Option β) : latest f [] = none := rfl

theorem latest_append {β : Type} (f : ι → Option β) (l l' : List ι) :
    latest f (l ++ l') = (latest f l').or (latest f l) := by
  rw [latest, reverse_append, findSome?_append]
  rfl

/-- Items that `f` does not apply to do not change what came last. -/
theorem latest_append_of_none {β : Type} {f : ι → Option β} {l' : List ι}
    (h : ∀ x ∈ l', f x = none) : latest f (l ++ l') = latest f l := by
  have hnone : latest f l' = none :=
    findSome?_eq_none_iff.mpr fun x hx ↦ h x (mem_reverse.mp hx)
  rw [latest_append, hnone, Option.none_or]

theorem latest_concat {β : Type} (f : ι → Option β) (l : List ι) (x : ι) :
    latest f (l ++ [x]) = (f x).or (latest f l) := by
  rw [latest_append, latest, reverse_singleton, findSome?_singleton]

theorem latest_singleton {β : Type} (f : ι → Option β) (x : ι) : latest f [x] = f x := by
  rw [latest, reverse_singleton, findSome?_singleton]

theorem latest_eq_none_iff {β : Type} {f : ι → Option β} :
    latest f l = none ↔ ∀ x ∈ l, f x = none := by
  simp [latest]

theorem latest_map {β γ : Type} (f : ι → Option β) (g : β → γ) (l : List ι) :
    latest (fun x ↦ (f x).map g) l = (latest f l).map g := by
  rw [latest, latest]
  induction l.reverse with
  | nil => rfl
  | cons x l ih =>
    rw [findSome?_cons, findSome?_cons]
    cases f x with
    | none => exact ih
    | some y => rfl

/-- What is read off what came last is read last, if there is something to read. -/
theorem latest_bind {β γ : Type} {f : ι → Option β} {g : β → Option γ} {z : γ}
    (h : (latest f l).bind g = some z) : latest (fun x ↦ (f x).bind g) l = some z := by
  rw [latest] at h ⊢
  revert h
  induction l.reverse with
  | nil => exact fun h ↦ nomatch h
  | cons x l ih =>
    rw [findSome?_cons, findSome?_cons]
    cases f x with
    | none => exact ih
    | some y =>
      intro hy
      change g y = some z at hy
      rw [Option.bind_some, hy]

/-- Of items that all say the same, the last one says it. -/
theorem latest_eq_some {β : Type} {f : ι → Option β} {x : ι} {y : β} (hx : x ∈ l)
    (hy : f x = some y) (h : ∀ x ∈ l, ∀ z, f x = some z → z = y) : latest f l = some y := by
  cases hlatest : latest f l with
  | none =>
    rw [latest_eq_none_iff.mp hlatest x hx] at hy
    cases hy
  | some z =>
    obtain ⟨x', hx', hz⟩ := exists_of_findSome?_eq_some hlatest
    rw [h x' (mem_reverse.mp hx') z hz]

/-! ## Runs -/

/-- An item of a history. -/
inductive Item (ε ο : Type)
  | event (e : ε)
  | out (o : ο)
  deriving DecidableEq

/-- What one step adds to the history. -/
def entry (e : ε) (outs : List ο) : List (Item ε ο) := .event e :: outs.map .out

theorem append_entry (hist : List (Item ε ο)) (e : ε) (outs : List ο) :
    hist ++ entry e outs = (hist ++ [.event e]) ++ outs.map .out := by
  rw [entry, append_assoc, singleton_append]

/-- An event of a longer history is one of the shorter one or the one that has been added. -/
theorem append_entry_eq {hist before after : List (Item ε ο)} {e e' : ε} {outs : List ο}
    (h : hist ++ entry e outs = before ++ .event e' :: after) :
    (∃ mid, hist = before ++ .event e' :: mid ∧ after = mid ++ entry e outs) ∨
      before = hist ∧ e' = e ∧ after = outs.map .out := by
  rcases append_eq_append_iff.mp h with ⟨mid, rfl, hentry⟩ | ⟨mid, rfl, hentry⟩
  · cases mid with
    | nil =>
      obtain ⟨he, hafter⟩ := List.cons.inj hentry
      exact Or.inr ⟨List.append_nil hist, (Item.event.inj he).symm, hafter.symm⟩
    | cons x mid =>
      have hmem : .event e' ∈ outs.map Item.out := by
        rw [(List.cons.inj hentry).2]
        exact mem_append_right _ mem_cons_self
      obtain ⟨o, -, ho⟩ := mem_map.mp hmem
      cases ho
  · cases mid with
    | nil =>
      obtain ⟨he, hafter⟩ := List.cons.inj hentry
      exact Or.inr ⟨(List.append_nil before).symm, Item.event.inj he, hafter⟩
    | cons x mid =>
      obtain ⟨rfl, rfl⟩ := List.cons.inj hentry
      exact Or.inl ⟨mid, rfl, rfl⟩

/-- A reading of events is not changed by outputs. -/
theorem latest_append_entry {β : Type} {f : Item ε ο → Option β} (hf : ∀ o, f (.out o) = none)
    (hist : List (Item ε ο)) (e : ε) (outs : List ο) :
    latest f (hist ++ entry e outs) = (f (.event e)).or (latest f hist) := by
  rw [append_entry, latest_append_of_none, latest_concat]
  intro x hx
  obtain ⟨o, -, rfl⟩ := mem_map.mp hx
  exact hf o

/-- The events of a history. -/
def eventsOf (hist : List (Item ε ο)) : List ε :=
  hist.filterMap fun
    | .event e => some e
    | .out _ => none

/-- The outputs of a history. -/
def outsOf (hist : List (Item ε ο)) : List ο :=
  hist.filterMap fun
    | .event _ => none
    | .out o => some o

@[simp] theorem eventsOf_nil : eventsOf ([] : List (Item ε ο)) = [] := rfl

@[simp] theorem outsOf_nil : outsOf ([] : List (Item ε ο)) = [] := rfl

@[simp] theorem eventsOf_append_entry (hist : List (Item ε ο)) (e : ε) (outs : List ο) :
    eventsOf (hist ++ entry e outs) = eventsOf hist ++ [e] := by
  simp [eventsOf, entry]

@[simp] theorem outsOf_append_entry (hist : List (Item ε ο)) (e : ε) (outs : List ο) :
    outsOf (hist ++ entry e outs) = outsOf hist ++ outs := by
  simp [outsOf, entry]

theorem mem_outsOf {hist : List (Item ε ο)} {o : ο} : o ∈ outsOf hist ↔ .out o ∈ hist := by
  rw [outsOf, mem_filterMap]
  constructor
  · rintro ⟨x, hx, heq⟩
    cases x with
    | event e => cases heq
    | out o' =>
      obtain rfl := Option.some_inj.mp heq
      exact hx
  · exact fun h ↦ ⟨_, h, rfl⟩

/-- The runs from `s₀` whose steps all meet the guard, with their histories. -/
inductive Run (step : σ → ε → Option (σ × List ο)) (guard : σ → ε → Prop) (s₀ : σ) :
    List (Item ε ο) → σ → Prop
  | start : Run step guard s₀ [] s₀
  | step {hist : List (Item ε ο)} {s s' : σ} {e : ε} {outs : List ο} :
    Run step guard s₀ hist s → guard s e → step s e = some (s', outs) →
      Run step guard s₀ (hist ++ entry e outs) s'

/-- A relation between history and state that holds at the start and that every step keeps holds
along every run. -/
theorem Run.invariant {step : σ → ε → Option (σ × List ο)} {guard : σ → ε → Prop} {s₀ s : σ}
    {hist : List (Item ε ο)} {I : List (Item ε ο) → σ → Prop} (h : Run step guard s₀ hist s)
    (h₀ : I [] s₀)
    (hstep : ∀ {hist s e s' outs}, I hist s → guard s e → step s e = some (s', outs) →
      I (hist ++ entry e outs) s') : I hist s := by
  induction h with
  | start => exact h₀
  | step _ hg hs ih => exact hstep ih hg hs

/-- A run meets every weaker guard. -/
theorem Run.mono {step : σ → ε → Option (σ × List ο)} {guard guard' : σ → ε → Prop} {s₀ s : σ}
    {hist : List (Item ε ο)} (h : Run step guard s₀ hist s)
    (himp : ∀ s e, guard s e → guard' s e) : Run step guard' s₀ hist s := by
  induction h with
  | start => exact .start
  | step _ hg hs ih => exact ih.step (himp _ _ hg) hs

section Execution

variable (step : σ → ε → Option (σ × List ο)) (guard : σ → ε → Prop)
  [∀ s e, Decidable (guard s e)]

/-- Run the events of a list one after the other, as long as none of them is refused or breaks the
guard. -/
def runEvents : List (Item ε ο) → σ → List ε → Option (List (Item ε ο) × σ)
  | hist, s, [] => some (hist, s)
  | hist, s, e :: es =>
    if guard s e then
      match step s e with
      | none => none
      | some (s', outs) => runEvents (hist ++ entry e outs) s' es
    else none

variable {step guard}

theorem Run.of_runEvents_from {es : List ε} {hist : List (Item ε ο)} {s₀ s : σ}
    {r : List (Item ε ο) × σ} (h : Run step guard s₀ hist s)
    (he : runEvents step guard hist s es = some r) : Run step guard s₀ r.1 r.2 := by
  induction es generalizing hist s with
  | nil =>
    obtain rfl := Option.some_inj.mp he
    exact h
  | cons e es ih =>
    rw [runEvents] at he
    split at he
    · next hg =>
      split at he
      · cases he
      · next hs => exact ih (h.step hg hs) he
    · cases he

variable (step guard)

/-- What executing a list of events computes is a run. -/
theorem Run.exists_of_runEvents (s₀ : σ) (es : List ε) (P : List (Item ε ο) → σ → Prop)
    [∀ hist s, Decidable (P hist s)]
    (h : (runEvents step guard [] s₀ es).any (fun r ↦ decide (P r.1 r.2)) = true) :
    ∃ hist s, Run step guard s₀ hist s ∧ P hist s := by
  cases he : runEvents step guard [] s₀ es with
  | none =>
    rw [he] at h
    cases h
  | some r =>
    rw [he] at h
    exact ⟨r.1, r.2, Run.of_runEvents_from .start he, of_decide_eq_true h⟩

variable {step guard}

theorem Run.exists_of_decide {s₀ : σ} {P : List (Item ε ο) → σ → Prop}
    [∀ hist s, Decidable (P hist s)] (es : List ε)
    (h : (runEvents step guard [] s₀ es).any (fun r ↦ decide (P r.1 r.2)) = true) :
    ∃ hist s, Run step guard s₀ hist s ∧ P hist s :=
  Run.exists_of_runEvents step guard s₀ es P h

end Execution

end MataDevice
