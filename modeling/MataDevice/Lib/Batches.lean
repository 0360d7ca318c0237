import Mathlib.Data.List.Basic
import Mathlib.Data.List.Chain
import Mathlib.Tactic.Common

/-!
# Batches of a stream

A receiver collects the items of a stream into batches. It recognizes by an item that a batch
begins, either by the item itself or by a key that differs from the one it keeps, and then hands out
the batch it has collected so far. By an item too it recognizes that a batch is complete. Some items
are not collected.

A stream that is made of groups is cut into these groups, whatever items of it are lost, when within
a group no item but the first opens a batch and none but the last completes it, and when the first
item of each group that is left is recognized. What has been handed out and what is still collected
are then together the groups, in their order.

A second machine that simulates the receiver hands out what the receiver hands out, in its own form.
-/

namespace MataDevice.Batches

open List

/-! ## Machines with outputs -/

section Machines

variable {σ τ ι ω ρ ν : Type} {step : σ → ι → σ × List ω} {s : σ}

/-- The state after the inputs, with the outputs of all steps. -/
def run (step : σ → ι → σ × List ω) (s : σ) : List ι → σ × List ω
  | [] => (s, [])
  | i :: is => ((run step (step s i).1 is).1, (step s i).2 ++ (run step (step s i).1 is).2)

@[simp] theorem run_nil : run step s [] = (s, []) := rfl

theorem run_cons (i : ι) (is : List ι) :
    run step s (i :: is) =
      ((run step (step s i).1 is).1, (step s i).2 ++ (run step (step s i).1 is).2) := rfl

theorem run_append (is js : List ι) :
    run step s (is ++ js) =
      ((run step (run step s is).1 js).1, (run step s is).2 ++ (run step (run step s is).1 js).2) := by
  induction is generalizing s with
  | nil => rfl
  | cons i is ih => rw [cons_append, run_cons, ih, run_cons, append_assoc]

/-- Outputs look the same along a run when they do in each step. -/
theorem run_simulates (step : σ → ι → σ × List ω) (step' : τ → ι → τ × List ρ) {R : σ → τ → Prop} {valid : ι → Prop} {t : τ}
    (f : ω → ν) (f' : ρ → ν)
    (hstep : ∀ s t i, R s t → valid i →
      R (step s i).1 (step' t i).1 ∧ (step s i).2.map f = (step' t i).2.map f')
    (h₀ : R s t) {is : List ι} (his : ∀ i ∈ is, valid i) :
    R (run step s is).1 (run step' t is).1 ∧
      (run step s is).2.map f = (run step' t is).2.map f' := by
  induction is generalizing s t with
  | nil => exact ⟨h₀, rfl⟩
  | cons i is ih =>
    obtain ⟨hR, hout⟩ := hstep s t i h₀ (his i mem_cons_self)
    obtain ⟨hR', hout'⟩ := ih hR fun j hj ↦ his j (mem_cons_of_mem i hj)
    rw [run_cons, run_cons, map_append, map_append, hout, hout']
    exact ⟨hR', rfl⟩

end Machines

/-! ## The receiver -/

variable {M K : Type}

/-- By what a receiver recognizes the batches, and what it collects. -/
structure Rules (M K : Type) where
  opens : M → Bool
  completes : M → Bool
  key : M → K
  collects : M → Bool

structure Pending (M K : Type) where
  key : K
  batch : List M

namespace Pending

variable (s : Pending M K)

/-- What a receiver hands out when the next batch begins. -/
def rest : List (List M) := if s.batch = [] then [] else [s.batch]

end Pending

namespace Rules

variable (r : Rules M K)

/-- The receiver recognizes by the item that a batch begins. -/
def Begins (key : K) (m : M) : Prop := r.opens m = true ∨ r.key m ≠ key

instance [DecidableEq K] (key : K) (m : M) : Decidable (r.Begins key m) := inferInstanceAs (Decidable (_ ∨ _))

/-- The batch before is handed out. -/
def flush [DecidableEq K] (s : Pending M K) (m : M) : Pending M K × List (List M) :=
  if r.Begins s.key m then (⟨r.key m, []⟩, s.rest) else (s, [])

def collect (s : Pending M K) (m : M) : Pending M K × List (List M) :=
  if !r.collects m then (s, [])
  else if r.completes m then ({ s with batch := [] }, [s.batch ++ [m]])
  else ({ s with batch := s.batch ++ [m] }, [])

def step [DecidableEq K] (s : Pending M K) (m : M) : Pending M K × List (List M) :=
  let (s, out) := r.flush s m
  ((r.collect s m).1, out ++ (r.collect s m).2)

/-- The items of a group that are collected. -/
def collected (ms : List M) : List M := ms.filter r.collects

/-- The batches the groups ask for. -/
def batches (groups : List (List M)) : List (List M) :=
  (groups.map r.collected).filter (!·.isEmpty)

/-- Only the first item of a group opens a batch and only the last one completes it. -/
structure IsGroup (key : K) (ms : List M) : Prop where
  key_eq : ∀ m ∈ ms, r.key m = key
  pairwise : ms.Pairwise fun m m' ↦ r.completes m = false ∧ r.opens m' = false

/-- The first item of the second group is recognized after the first group. -/
def Follows (g g' : K × List M) : Prop := ∀ m ∈ g'.2.head?, r.Begins g.1 m

/-- What has become of the collected items of a group: the batch waits, or its last item has
completed it. -/
def Held (key : K) (ms : List M) (result : Pending M K × List (List M)) : Prop :=
  result = (⟨key, r.collected ms⟩, []) ∨
    result = (⟨key, []⟩, [r.collected ms]) ∧ r.collected ms ≠ [] ∧
      ∃ m ∈ ms.getLast?, r.completes m = true

variable {r} {key : K} {s : Pending M K} {m : M} {ms ms' : List M}

/-! ### One group -/

theorem IsGroup.sublist (h : r.IsGroup key ms) (hsub : ms'.Sublist ms) : r.IsGroup key ms' :=
  ⟨fun m hm ↦ h.key_eq m (hsub.subset hm), h.pairwise.sublist hsub⟩

theorem collected_append : r.collected (ms ++ ms') = r.collected ms ++ r.collected ms' :=
  filter_append ..

@[simp] theorem collect_key : (r.collect s m).1.key = s.key := by
  unfold collect
  split
  · rfl
  · split <;> rfl

/-- Collecting the rest of a group of which some items have been collected. -/
theorem held_run_collect (h : ms.Pairwise fun m _ ↦ r.completes m = false) (hs : s.key = key)
    (hms : ∀ m ∈ ms', r.completes m = false) (hb : s.batch = r.collected ms') :
    r.Held key (ms' ++ ms) (run r.collect s ms) := by
  induction ms generalizing s ms' with
  | nil =>
    left
    rw [run_nil, List.append_nil, ← hb, ← hs]
  | cons m ms ih =>
    rw [pairwise_cons] at h
    have hcons : ms' ++ m :: ms = (ms' ++ [m]) ++ ms := by simp
    by_cases hm : r.completes m = true
    · -- nothing follows a last item
      obtain rfl : ms = [] := by
        cases ms with
        | nil => rfl
        | cons m' ms => exact absurd hm (by simp [h.1 m' mem_cons_self])
      by_cases hcol : r.collects m = true
      · right
        have hcollected : r.collected (ms' ++ [m]) = s.batch ++ [m] := by
          rw [collected_append, ← hb, collected, filter_singleton, hcol]
          rfl
        have hstep : r.collect s m = (⟨key, []⟩, [s.batch ++ [m]]) := by
          simp [collect, hcol, hm, hs]
        refine ⟨?_, ?_, m, by simp, hm⟩
        · rw [run_cons, hstep, hcollected]
          rfl
        · rw [hcollected]
          simp
      · left
        have hcollected : r.collected (ms' ++ [m]) = s.batch := by
          rw [collected_append, ← hb, collected, filter_singleton]
          simp [hcol]
        have hstep : r.collect s m = (s, []) := by simp [collect, hcol]
        rw [run_cons, hstep, hcollected, ← hs]
        rfl
    · rw [Bool.not_eq_true] at hm
      have hms : ∀ m' ∈ ms' ++ [m], r.completes m' = false := by
        intro m' hm'
        rcases mem_append.mp hm' with hm' | hm'
        · exact hms m' hm'
        · rw [mem_singleton.mp hm', hm]
      have hkey : (r.collect s m).1.key = key := by rw [collect_key, hs]
      have hbatch : (r.collect s m).1.batch = r.collected (ms' ++ [m]) := by
        rw [collected_append, ← hb, collected, filter_singleton]
        by_cases hcol : r.collects m = true <;> simp [collect, hcol, hm]
      have hout : (r.collect s m).2 = [] := by
        by_cases hcol : r.collects m = true <;> simp [collect, hcol, hm]
      rw [hcons, run_cons, hout, nil_append]
      exact ih h.2 hkey hms hbatch

theorem batches_singleton :
    r.batches [ms] = if r.collected ms = [] then [] else [r.collected ms] := by
  unfold batches
  by_cases hms : r.collected ms = [] <;> simp [hms]

variable {result : Pending M K × List (List M)}

theorem Held.handedOut_append_rest
    (h : r.Held key ms result) : result.2 ++ result.1.rest = r.batches [ms] := by
  rw [batches_singleton]
  rcases h with rfl | ⟨rfl, hne, -⟩
  · rfl
  · rw [if_neg hne]
    rfl

theorem Held.key_eq (h : r.Held key ms result) :
    result.1.key = key := by
  rcases h with rfl | ⟨rfl, -, -⟩ <;> rfl

variable [DecidableEq K]

theorem step_of_not_begins (h : ¬r.Begins s.key m) : r.step s m = r.collect s m := by
  rw [step, flush, if_neg h]
  rfl

/-- Within a group the items are only collected. -/
theorem run_step_eq_run_collect (h : ∀ m ∈ ms, ¬r.Begins s.key m) :
    run r.step s ms = run r.collect s ms := by
  induction ms generalizing s with
  | nil => rfl
  | cons m ms ih =>
    have hm : ∀ m' ∈ ms, ¬r.Begins (r.collect s m).1.key m' := fun m' hm' ↦ by
      rw [collect_key]
      exact h m' (mem_cons_of_mem m hm')
    rw [run_cons, run_cons, step_of_not_begins (h m mem_cons_self), ih hm]

/-- What was collected before is handed out with the first item of a group, which is collected from
the start. -/
theorem run_group (h : r.IsGroup key (m :: ms)) (hm : r.Begins s.key m) :
    ∃ result, r.Held key (m :: ms) result ∧
      run r.step s (m :: ms) = (result.1, s.rest ++ result.2) := by
  have hkey : r.key m = key := h.key_eq m mem_cons_self
  have hrest : ∀ m' ∈ ms, ¬r.Begins key m' := fun m' hm' hb ↦ by
    rcases hb with hopen | hne
    · rw [((pairwise_cons.mp h.pairwise).1 m' hm').2] at hopen
      exact absurd hopen (by simp)
    · exact hne (h.key_eq m' (mem_cons_of_mem m hm'))
  have hheld : r.Held key ([] ++ m :: ms) (run r.collect (⟨key, []⟩ : Pending M K) (m :: ms)) :=
    held_run_collect (h.pairwise.imp And.left) rfl (by simp) rfl
  refine ⟨_, hheld, ?_⟩
  have hstep : r.step s m =
      ((r.collect (⟨key, []⟩ : Pending M K) m).1,
        s.rest ++ (r.collect (⟨key, []⟩ : Pending M K) m).2) := by
    rw [step, flush, if_pos hm, hkey]
  have hcollect : (r.collect (⟨key, []⟩ : Pending M K) m).1.key = key := collect_key
  rw [run_cons, run_cons, hstep, run_step_eq_run_collect, append_assoc]
  intro m' hm'
  rw [hcollect]
  exact hrest m' hm'

/-! ### All groups -/

variable {groups : List (K × List M)} {g : K × List M}

omit [DecidableEq K] in
theorem batches_append (mss mss' : List (List M)) :
    r.batches (mss ++ mss') = r.batches mss ++ r.batches mss' := by
  unfold batches
  rw [map_append, filter_append]

omit [DecidableEq K] in
theorem batches_cons (ms : List M) (mss : List (List M)) :
    r.batches (ms :: mss) = r.batches [ms] ++ r.batches mss := batches_append [ms] mss

/-- Groups of which something is left, and which are recognized after a batch with the key. -/
structure Recognized (r : Rules M K) (key : K) (groups : List (K × List M)) : Prop where
  isGroup : ∀ g ∈ groups, r.IsGroup g.1 g.2
  ne_nil : ∀ g ∈ groups, g.2 ≠ []
  first : ∀ g ∈ groups.head?, ∀ m ∈ g.2.head?, r.Begins key m
  chain : groups.IsChain r.Follows

omit [DecidableEq K] in
theorem Recognized.tail (h : r.Recognized key (g :: groups)) : r.Recognized g.1 groups where
  isGroup g' hg' := h.isGroup g' (mem_cons_of_mem g hg')
  ne_nil g' hg' := h.ne_nil g' (mem_cons_of_mem g hg')
  first := (isChain_cons.mp h.chain).1
  chain := (isChain_cons.mp h.chain).2

omit [DecidableEq K] in
/-- Of the last group only the first items may have arrived. -/
theorem Recognized.of_prefix (h : r.Recognized key (groups ++ [g])) (hms : ms <+: g.2)
    (hne : ms ≠ []) : r.Recognized key (groups ++ [(g.1, ms)]) := by
  have hhead : ms.head? = g.2.head? := by
    obtain ⟨ms', hms'⟩ := hms
    rw [← hms', head?_append_of_ne_nil ms hne]
  obtain ⟨hchain, -, hlast⟩ := isChain_append.mp h.chain
  refine ⟨fun g' hg' ↦ ?_, fun g' hg' ↦ ?_, fun g' hg' ↦ ?_, ?_⟩
  · rcases mem_append.mp hg' with hg' | hg'
    · exact h.isGroup g' (mem_append_left _ hg')
    · rw [mem_singleton.mp hg']
      exact (h.isGroup g (by simp)).sublist hms.sublist
  · rcases mem_append.mp hg' with hg' | hg'
    · exact h.ne_nil g' (mem_append_left _ hg')
    · rw [mem_singleton.mp hg']
      exact hne
  · cases groups with
    | nil =>
      obtain rfl : (g.1, ms) = g' := by simpa using hg'
      rw [hhead]
      exact h.first g rfl
    | cons g'' groups => exact h.first g' hg'
  · refine isChain_append.mpr ⟨hchain, isChain_singleton _, fun g' hg' g'' hg'' ↦ ?_⟩
    obtain rfl : (g.1, ms) = g'' := by simpa using hg''
    intro m hm
    rw [hhead] at hm
    exact hlast g' hg' g rfl m hm

omit [DecidableEq K] in
/-- An item that completes its batch is the last one of its group. -/
theorem IsGroup.eq_of_completes (h : r.IsGroup key ms) (hms : ms' <+: ms) (hm : m ∈ ms'.getLast?)
    (hcompletes : r.completes m = true) : ms' = ms := by
  obtain ⟨later, rfl⟩ := hms
  cases later with
  | nil => rw [List.append_nil]
  | cons m' later =>
    have hpair := (pairwise_append.mp h.pairwise).2.2 m (mem_of_getLast? hm) m'
      mem_cons_self
    rw [hpair.1] at hcompletes
    cases hcompletes

theorem Recognized.run_group (h : r.Recognized s.key (g :: groups)) :
    ∃ result, r.Held g.1 g.2 result ∧ run r.step s g.2 = (result.1, s.rest ++ result.2) := by
  obtain ⟨m, ms, hg⟩ := exists_cons_of_ne_nil (h.ne_nil g mem_cons_self)
  have hgroup := h.isGroup g mem_cons_self
  have hbegins := h.first g rfl m (by rw [hg]; rfl)
  rw [hg] at hgroup ⊢
  exact Rules.run_group hgroup hbegins

/-- What has been handed out and what is still collected are together the batches of the groups. -/
theorem Recognized.handedOut_append_rest (h : r.Recognized s.key groups) :
    (run r.step s (groups.flatMap Prod.snd)).2 ++ (run r.step s (groups.flatMap Prod.snd)).1.rest =
      s.rest ++ r.batches (groups.map Prod.snd) := by
  induction groups generalizing s with
  | nil => simp [batches]
  | cons g groups ih =>
    obtain ⟨result, hheld, hrun⟩ := h.run_group
    have htail : r.Recognized result.1.key groups := by
      rw [hheld.key_eq]
      exact h.tail
    rw [flatMap_cons, run_append, hrun, append_assoc, append_assoc, ih htail,
      map_cons, batches_cons, ← hheld.handedOut_append_rest, append_assoc]

/-- Nothing of the groups before the last one is still collected. -/
theorem Recognized.batch_of_getLast? (h : r.Recognized s.key groups) (hg : g ∈ groups.getLast?) :
    (run r.step s (groups.flatMap Prod.snd)).1.batch = r.collected g.2 ∨
      (run r.step s (groups.flatMap Prod.snd)).1.batch = [] ∧
        ∃ m ∈ g.2.getLast?, r.completes m = true := by
  induction groups generalizing s with
  | nil => cases hg
  | cons g' groups ih =>
    obtain ⟨result, hheld, hrun⟩ := h.run_group
    have htail : r.Recognized result.1.key groups := by
      rw [hheld.key_eq]
      exact h.tail
    rw [flatMap_cons, run_append, hrun]
    cases groups with
    | nil =>
      obtain rfl : g' = g := by simpa using hg
      rcases hheld with rfl | ⟨rfl, -, hlast⟩
      · exact .inl rfl
      · exact .inr ⟨rfl, hlast⟩
    | cons g'' groups => exact ih htail (by simpa using hg)

/-- After some items of a group the batches before it have been handed out, and its own batch at
most when nothing of it is missing. -/
theorem Recognized.handedOut (h : r.Recognized s.key (groups ++ [g])) (hs : s.batch = [])
    (hms : ms <+: g.2) (hne : ms ≠ []) :
    (run r.step s (groups.flatMap Prod.snd ++ ms)).2 = r.batches (groups.map Prod.snd) ∨
      ms = g.2 ∧ (run r.step s (groups.flatMap Prod.snd ++ ms)).2 =
        r.batches ((groups ++ [g]).map Prod.snd) := by
  have hrec := h.of_prefix hms hne
  have htotal := hrec.handedOut_append_rest
  have hbatch := hrec.batch_of_getLast? getLast?_concat
  have hinputs : (groups ++ [(g.1, ms)]).flatMap Prod.snd = groups.flatMap Prod.snd ++ ms := by
    simp
  have hs' : s.rest = [] := by rw [Pending.rest, if_pos hs]
  rw [hinputs, hs', nil_append, map_append, batches_append] at htotal
  rw [hinputs] at hbatch
  rcases hbatch with hbatch | ⟨hbatch, m, hm, hcompletes⟩
  · -- the batch of the last group waits
    left
    have hrest : (run r.step s (groups.flatMap Prod.snd ++ ms)).1.rest = r.batches [ms] := by
      rw [Pending.rest, hbatch, batches_singleton]
    rw [hrest] at htotal
    exact append_cancel_right htotal
  · right
    obtain rfl : ms = g.2 := (h.isGroup g (by simp)).eq_of_completes hms hm hcompletes
    have hrest : (run r.step s (groups.flatMap Prod.snd ++ g.2)).1.rest = [] := by
      rw [Pending.rest, if_pos hbatch]
    rw [hrest, List.append_nil] at htotal
    rw [map_append, batches_append]
    exact ⟨rfl, htotal⟩

end Rules

end MataDevice.Batches
