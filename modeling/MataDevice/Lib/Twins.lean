import Mathlib.Logic.Equiv.Basic
import Mathlib.Order.WellFounded
import Mathlib.Tactic

/-!
# Exchanging the first two of a kind

The items of a family are of kinds, some of them of none. The first two items of a kind are twins,
and an exchange puts each of them into the other's place. This leaves the kind at every place as it
was, so exchanges for several kinds do not disturb each other: all twins can be read off the family
at the start, the exchange is a permutation of the items, and doing it a second time undoes it.
-/

namespace MataDevice.Twins

open List

variable {ι κ α : Type*} [LinearOrder ι]

/-- The first two places with a property -/
structure FirstTwo (p : ι → Prop) (i j : ι) : Prop where
  lt : i < j
  left : p i
  right : p j
  eq_or_le : ∀ l, p l → l = i ∨ j ≤ l

namespace FirstTwo

variable {p : ι → Prop} {i j i' j' : ι}

theorem unique (h : FirstTwo p i j) (h' : FirstTwo p i' j') : i = i' ∧ j = j' := by
  have hleft : i = i' := by
    rcases h'.eq_or_le i h.left with heq | hle
    · exact heq
    · rcases h.eq_or_le i' h'.left with heq | hle'
      · exact heq.symm
      · exact absurd (((h.lt.trans_le hle').trans h'.lt).trans_le hle) (lt_irrefl i)
  subst hleft
  refine ⟨rfl, le_antisymm ?_ ?_⟩
  · exact (h.eq_or_le j' h'.right).resolve_left h'.lt.ne'
  · exact (h'.eq_or_le j h.right).resolve_left h.lt.ne'

/-- In a well-founded order there are first two places as soon as there are two. -/
theorem exists_iff [WellFoundedLT ι] :
    (∃ i j, FirstTwo p i j) ↔ ∃ i j, i < j ∧ p i ∧ p j := by
  constructor
  · rintro ⟨i, j, h⟩
    exact ⟨i, j, h.lt, h.left, h.right⟩
  · rintro ⟨a, b, hlt, ha, hb⟩
    obtain ⟨i, hi, hmin⟩ := wellFounded_lt.has_min {l | p l} ⟨a, ha⟩
    have hle : ∀ l, p l → i ≤ l := fun l hl ↦ not_lt.mp (hmin l hl)
    obtain ⟨j, ⟨hj, hij⟩, hmin'⟩ := wellFounded_lt.has_min {l | p l ∧ i < l}
      ⟨b, hb, (hle a ha).trans_lt hlt⟩
    refine ⟨i, j, hij, hi, hj, fun l hl ↦ ?_⟩
    rcases (hle l hl).eq_or_lt with heq | hlt
    · exact Or.inl heq.symm
    · exact Or.inr (not_lt.mp (hmin' l ⟨hl, hlt⟩))

end FirstTwo

section

variable (kind : α → Option κ) (ks : List κ) (e : ι → α)

/-- Two places with the first two items of a kind of the list -/
def IsTwins (i j : ι) : Prop :=
  ∃ k ∈ ks, FirstTwo (fun l ↦ kind (e l) = some k) i j ∨ FirstTwo (fun l ↦ kind (e l) = some k) j i

/-- One family has come from another: the twins are exchanged, and what has no twin stays. -/
structure Exchanged (e' : ι → α) : Prop where
  twins : ∀ i j, IsTwins kind ks e i j → e' i = e j
  others : ∀ i, (∀ j, ¬IsTwins kind ks e i j) → e' i = e i

end

variable {kind : α → Option κ} {ks : List κ} {e e' e'' : ι → α} {i j j' : ι} {k : κ}

namespace IsTwins

theorem symm (h : IsTwins kind ks e i j) : IsTwins kind ks e j i := by
  obtain ⟨k, hk, h⟩ := h
  exact ⟨k, hk, h.symm⟩

/-- Twins are of a kind of the list, both of the same. -/
theorem exists_kind (h : IsTwins kind ks e i j) :
    ∃ k ∈ ks, kind (e i) = some k ∧ kind (e j) = some k := by
  obtain ⟨k, hk, h | h⟩ := h
  · exact ⟨k, hk, h.left, h.right⟩
  · exact ⟨k, hk, h.right, h.left⟩

theorem unique (h : IsTwins kind ks e i j) (h' : IsTwins kind ks e i j') : j = j' := by
  obtain ⟨k, -, hki, -⟩ := h.exists_kind
  have hkind : ∀ {l l'}, (∃ k' ∈ ks, FirstTwo (fun l ↦ kind (e l) = some k') l l' ∨
      FirstTwo (fun l ↦ kind (e l) = some k') l' l) → kind (e l) = some k →
        FirstTwo (fun l ↦ kind (e l) = some k) l l' ∨
          FirstTwo (fun l ↦ kind (e l) = some k) l' l := by
    rintro l l' ⟨k', -, hfirst⟩ hl
    have hl' : kind (e l) = some k' := hfirst.elim FirstTwo.left FirstTwo.right
    rwa [Option.some_inj.mp (hl.symm.trans hl')]
  rcases hkind h hki with h | h <;> rcases hkind h' hki with h' | h'
  · exact (h.unique h').2
  · exact absurd h.lt (h.unique h').2.not_gt
  · exact absurd h.lt (h.unique h').1.not_lt
  · exact (h.unique h').1

theorem congr (h : ∀ i, kind (e' i) = kind (e i)) :
    IsTwins kind ks e' i j ↔ IsTwins kind ks e i j := by
  simp only [IsTwins, h]

end IsTwins

namespace Exchanged

theorem kind_eq (h : Exchanged kind ks e e') (i : ι) : kind (e' i) = kind (e i) := by
  by_cases htwin : ∃ j, IsTwins kind ks e i j
  · obtain ⟨j, htwin⟩ := htwin
    obtain ⟨k, -, hi, hj⟩ := htwin.exists_kind
    rw [h.twins i j htwin, hi, hj]
  · rw [h.others i (not_exists.mp htwin)]

/-- There is one exchange only. -/
theorem unique (h : Exchanged kind ks e e') (h' : Exchanged kind ks e e'') : e' = e'' := by
  funext i
  by_cases htwin : ∃ j, IsTwins kind ks e i j
  · obtain ⟨j, htwin⟩ := htwin
    rw [h.twins i j htwin, h'.twins i j htwin]
  · rw [h.others i (not_exists.mp htwin), h'.others i (not_exists.mp htwin)]

/-- A second exchange undoes the first. -/
theorem symm (h : Exchanged kind ks e e') : Exchanged kind ks e' e := by
  constructor
  · intro i j htwin
    exact (h.twins j i ((IsTwins.congr h.kind_eq).mp htwin).symm).symm
  · intro i hno
    exact (h.others i fun j htwin ↦ hno j ((IsTwins.congr h.kind_eq).mpr htwin)).symm

/-- An exchange for a list of kinds is one exchange after the other. -/
theorem cons (hk : k ∉ ks) (h : Exchanged kind [k] e e') (h' : Exchanged kind ks e' e'') :
    Exchanged kind (k :: ks) e e'' := by
  -- a place that has a twin of the one kind has none of the others
  have hnot : ∀ {i j}, IsTwins kind [k] e i j → ∀ j', ¬IsTwins kind ks e i j' := by
    intro i j htwin j' htwin'
    obtain ⟨k', hk', hi, -⟩ := htwin.exists_kind
    obtain ⟨k'', hk'', hi', -⟩ := htwin'.exists_kind
    rw [mem_singleton.mp hk'] at hi
    exact hk (Option.some_inj.mp (hi.symm.trans hi') ▸ hk'')
  have hcongr : ∀ {i j}, IsTwins kind ks e' i j ↔ IsTwins kind ks e i j :=
    IsTwins.congr h.kind_eq
  constructor
  · rintro i j ⟨k', hk', hfirst⟩
    rcases mem_cons.mp hk' with rfl | hk'
    · have htwin : IsTwins kind [k'] e i j := ⟨k', mem_singleton_self k', hfirst⟩
      rw [h'.others i fun j' htwin' ↦ hnot htwin j' (hcongr.mp htwin'), h.twins i j htwin]
    · have htwin : IsTwins kind ks e i j := ⟨k', hk', hfirst⟩
      rw [h'.twins i j (hcongr.mpr htwin),
        h.others j fun j' htwin' ↦ hnot htwin' i htwin.symm]
  · intro i hno
    rw [h'.others i fun j htwin ↦ ?_, h.others i fun j htwin ↦ ?_]
    · obtain ⟨k', hk', hfirst⟩ := htwin
      rw [mem_singleton.mp hk'] at hfirst
      exact hno j ⟨k, mem_cons_self, hfirst⟩
    · obtain ⟨k', hk', hfirst⟩ := hcongr.mp htwin
      exact hno j ⟨k', mem_cons_of_mem k hk', hfirst⟩

theorem refl_of_not_firstTwo (h : ∀ k ∈ ks, ∀ i j, ¬FirstTwo (fun l ↦ kind (e l) = some k) i j) :
    Exchanged kind ks e e := by
  refine ⟨?_, fun i _ ↦ rfl⟩
  rintro i j ⟨k, hk, hfirst | hfirst⟩
  · exact absurd hfirst (h k hk i j)
  · exact absurd hfirst (h k hk j i)

/-- The exchange for one kind whose first two items are known -/
theorem of_firstTwo (h : FirstTwo (fun l ↦ kind (e l) = some k) i j) (hi : e' i = e j)
    (hj : e' j = e i) (hothers : ∀ l, l ≠ i → l ≠ j → e' l = e l) : Exchanged kind [k] e e' := by
  constructor
  · rintro a b ⟨k', hk', hfirst | hfirst⟩
    · rw [mem_singleton.mp hk'] at hfirst
      obtain ⟨rfl, rfl⟩ := h.unique hfirst
      exact hi
    · rw [mem_singleton.mp hk'] at hfirst
      obtain ⟨rfl, rfl⟩ := h.unique hfirst
      exact hj
  · intro l hno
    refine hothers l ?_ ?_
    · rintro rfl
      exact hno j ⟨k, mem_singleton_self k, Or.inl h⟩
    · rintro rfl
      exact hno i ⟨k, mem_singleton_self k, Or.inr h⟩

/-- An exchange moves the items about. -/
theorem exists_perm (h : Exchanged kind ks e e') :
    ∃ σ : Equiv.Perm ι, ∀ i, e' i = e (σ i) := by
  classical
  let twin : ι → ι := fun i ↦ if htwin : ∃ j, IsTwins kind ks e i j then htwin.choose else i
  have htwin_eq : ∀ {i j}, IsTwins kind ks e i j → twin i = j := by
    intro i j htwin
    have hex : ∃ j, IsTwins kind ks e i j := ⟨j, htwin⟩
    exact (dif_pos hex).trans (hex.choose_spec.unique htwin)
  have hself : ∀ {i}, (¬∃ j, IsTwins kind ks e i j) → twin i = i := fun hno ↦ dif_neg hno
  have hinvolutive : Function.Involutive twin := by
    intro i
    by_cases hex : ∃ j, IsTwins kind ks e i j
    · obtain ⟨j, htwin⟩ := hex
      rw [htwin_eq htwin, htwin_eq htwin.symm]
    · rw [hself hex, hself hex]
  refine ⟨hinvolutive.toPerm, fun i ↦ ?_⟩
  change e' i = e (twin i)
  by_cases hex : ∃ j, IsTwins kind ks e i j
  · obtain ⟨j, htwin⟩ := hex
    rw [htwin_eq htwin, h.twins i j htwin]
  · rw [hself hex, h.others i (not_exists.mp hex)]

end Exchanged

end MataDevice.Twins
