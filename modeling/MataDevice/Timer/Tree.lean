import Mathlib.Data.Nat.Log
import MataDevice.Timer.Priority

/-!
# The search for an object, and the shape of the tree

`LocHeapNode::remove` looks for an object by its address and goes below a node only if the object
does not outrank the one there. In a tree that passes its check this never passes over the object,
because no object outranks one above it, of whatever rank the others are.

What the objects rank does not matter for the shape of a tree. A push goes to the side with fewer
nodes, so that in a tree that is only pushed to, the sizes of two siblings differ by one at most,
and a branch is no longer than the logarithm of the number of objects. A pop or a removal may take
the leaf from either side.
-/

namespace MataDevice.Timer

open List

namespace LocHeapNode

variable {α : Type}

/-! ## Removal -/

/-- A tree with all the trees below it -/
def subtrees : LocHeapNode α → List (LocHeapNode α)
  | .null => [.null]
  | .node mSize mData mLeft mRight =>
    .node mSize mData mLeft mRight :: (mLeft.subtrees ++ mRight.subtrees)

theorem Ordered.of_mem_subtrees {rel : α → α → Bool} {t sub : LocHeapNode α} (h : t.Ordered rel)
    (hsub : sub ∈ t.subtrees) : sub.Ordered rel ∧ sub.toList ⊆ t.toList := by
  induction t with
  | null =>
    obtain rfl := mem_singleton.mp hsub
    exact ⟨h, List.Subset.refl _⟩
  | node mSize mData mLeft mRight ihl ihr =>
    rcases mem_cons.mp hsub with rfl | hsub
    · exact ⟨h, List.Subset.refl _⟩
    rcases mem_append.mp hsub with hsub | hsub
    · obtain ⟨hord, hmem⟩ := ihl h.2.2.1 hsub
      exact ⟨hord, fun x hx ↦ mem_cons_of_mem _ (mem_append_left _ (hmem hx))⟩
    · obtain ⟨hord, hmem⟩ := ihr h.2.2.2 hsub
      exact ⟨hord, fun x hx ↦ mem_cons_of_mem _ (mem_append_right _ (hmem hx))⟩

section

variable [DecidableEq α] {ranks : α → α → ℤ} {t : LocHeapNode α}

/-- **Removal is exact.** In a tree that passes its check and holds objects whose ranks are a total
preorder, a stored object is found and taken out once, and the tree still passes its check; the
search for any other object changes nothing. Wherever the object is stored below a node, it does
not outrank the object of the node, and so the search goes on there. -/
theorem remove_exact (hcheck : t.checkNodes (outRanks ranks) = true)
    (htotal : RankTotally ranks t.toList) (data : α) :
    (data ∈ t.toList → ∃ t', t.removeNode (outRanks ranks) data = (some data, t') ∧
      t'.toList.Perm (t.toList.erase data) ∧ t'.checkNodes (outRanks ranks) = true) ∧
    (data ∉ t.toList → t.removeNode (outRanks ranks) data = (none, t)) ∧
    ∀ sub ∈ t.subtrees, data ∈ sub.toList →
      ∀ top, sub.peek = some top → outRanks ranks data top = false := by
  obtain ⟨hordered, hsized⟩ := checkNodes_iff.mp hcheck
  refine ⟨fun hmem ↦ ?_, fun hnot ↦ ?_, fun sub hsub hmem top htop ↦ ?_⟩
  · obtain ⟨t', hremove⟩ := exists_remove_of_mem hordered htotal hmem
    refine ⟨t', by rw [removeNode_eq, hremove], ?_, checkNodes_iff.mpr ⟨?_, ?_⟩⟩
    · have hperm := (toList_remove hremove).trans (perm_cons_erase hmem)
      exact hperm.cons_inv
    · exact ordered_remove hordered htotal hremove
    · exact sized_remove hsized hremove
  · have hnone : t.remove (outRanks ranks) data = none := by
      rw [Option.eq_none_iff_forall_ne_some]
      exact fun t' hremove ↦ hnot ((toList_remove hremove).subset mem_cons_self)
    rw [removeNode_eq, hnone]
  · obtain ⟨hord, hsubset⟩ := hordered.of_mem_subtrees hsub
    exact hord.not_outRanks_top (htotal.of_subset hsubset) htop hmem

end

/-- Objects that rank by their first number -/
def smallerFirstFst (x y : ℕ × ℕ) : ℤ := smallerFirst x.1 y.1

/-- Two objects that rank the same: the second one is found, and the first one stays. -/
theorem remove_exact_sameRank :
    ∃ t', removeNode (outRanks smallerFirstFst) (5, 2) (.node 3 (1, 0) (leaf (5, 1)) (leaf (5, 2))) =
        (some (5, 2), t') ∧
      t'.toList.Perm [(1, 0), (5, 1)] ∧ t'.checkNodes (outRanks smallerFirstFst) = true :=
  (remove_exact (t := .node 3 (1, 0) (leaf (5, 1)) (leaf (5, 2))) (by decide) (by decide)
    (5, 2)).1 (by decide)

/-! ## Balance -/

/-- The sizes of two siblings differ by one at most. -/
def Balanced : LocHeapNode α → Prop
  | .null => True
  | .node _ _ mLeft mRight =>
    mLeft.getSize ≤ mRight.getSize + 1 ∧ mRight.getSize ≤ mLeft.getSize + 1 ∧
      Balanced mLeft ∧ Balanced mRight

/-- The number of nodes on a longest branch -/
def levels : LocHeapNode α → ℕ
  | .null => 0
  | .node _ _ mLeft mRight => max mLeft.levels mRight.levels + 1

/-- The number of links on a longest branch -/
def height (t : LocHeapNode α) : ℕ := t.levels - 1

section

variable (rel : α → α → Bool)

/-- `LocHeap::push` with the number of calls that `LocHeapNode::push` makes of itself, one within
the other -/
def pushCounted (data : α) : LocHeapNode α → LocHeapNode α × ℕ
  | .null => (leaf data, 0)
  | .node mSize mData mLeft mRight =>
    let upper := if rel data mData then data else mData
    let lower := if rel data mData then mData else data
    match mLeft, mRight with
    | .null, mRight => (.node (mSize + 1) upper (leaf lower) mRight, 0)
    | mLeft, .null => (.node (mSize + 1) upper mLeft (leaf lower), 0)
    | mLeft, mRight =>
      if mLeft.getSize ≤ mRight.getSize then
        let below := pushCounted lower mLeft
        (.node (mSize + 1) upper below.1 mRight, below.2 + 1)
      else
        let below := pushCounted lower mRight
        (.node (mSize + 1) upper mLeft below.1, below.2 + 1)

end

variable {rel : α → α → Bool} {data : α} {t : LocHeapNode α}

theorem height_node (mSize : ℕ) (mData : α) (mLeft mRight : LocHeapNode α) :
    (node mSize mData mLeft mRight).height = max mLeft.levels mRight.levels := rfl

theorem height_lt_levels (h : t = .null → False) : t.height < t.levels := by
  cases t with
  | null => exact (h rfl).elim
  | node mSize mData mLeft mRight => exact Nat.lt_succ_self _

/-- The counted push is the push, and it goes down a branch. -/
theorem pushCounted_spec : (t.pushCounted rel data).1 = t.push rel data ∧
    (t.pushCounted rel data).2 ≤ t.height := by
  fun_induction pushCounted rel data t with
  | case1 => exact ⟨rfl, le_rfl⟩
  | case2 data mSize mData upper lower mRight => exact ⟨rfl, Nat.zero_le _⟩
  | case3 data mSize mData upper lower mLeft hleft =>
    refine ⟨?_, Nat.zero_le _⟩
    rw [LocHeapNode.push]
    exact hleft
  | case4 data mSize mData upper lower mLeft mRight hleft hright hle below ih =>
    have hlt := height_lt_levels hleft
    rw [height_node, push.eq_4 _ _ _ _ _ _ hleft hright, if_pos hle, ← ih.1]
    exact ⟨rfl, (ih.2.trans_lt hlt).trans_le (le_max_left _ _)⟩
  | case5 data mSize mData upper lower mLeft mRight hleft hright hle below ih =>
    have hlt := height_lt_levels hright
    rw [height_node, push.eq_4 _ _ _ _ _ _ hleft hright, if_neg hle, ← ih.1]
    exact ⟨rfl, (ih.2.trans_lt hlt).trans_le (le_max_right _ _)⟩

theorem getSize_push : (t.push rel data).getSize = t.getSize + 1 := by
  fun_induction push rel data t <;> rfl

/-- A push keeps the tree balanced, whatever the data on its way is exchanged with. -/
theorem Balanced.push (h : t.Balanced) : (t.push rel data).Balanced := by
  fun_induction LocHeapNode.push rel data t with
  | case1 => exact ⟨le_self_add, le_self_add, trivial, trivial⟩
  | case2 data mSize mData upper lower mRight =>
    obtain ⟨-, hright, -, hr⟩ := h
    have hleaf : (leaf lower).getSize = 1 := rfl
    have hnull : (null : LocHeapNode α).getSize = 0 := rfl
    exact ⟨by omega, by omega, ⟨le_self_add, le_self_add, trivial, trivial⟩, hr⟩
  | case3 data mSize mData upper lower mLeft =>
    obtain ⟨hleft, -, hl, -⟩ := h
    have hleaf : (leaf lower).getSize = 1 := rfl
    have hnull : (null : LocHeapNode α).getSize = 0 := rfl
    exact ⟨by omega, by omega, hl, ⟨le_self_add, le_self_add, trivial, trivial⟩⟩
  | case4 data mSize mData upper lower mLeft mRight _ _ hle ih =>
    obtain ⟨hleft, hright, hl, hr⟩ := h
    have hsize : (mLeft.push rel lower).getSize = mLeft.getSize + 1 := getSize_push
    exact ⟨by omega, by omega, ih hl, hr⟩
  | case5 data mSize mData upper lower mLeft mRight _ _ hgt ih =>
    obtain ⟨hleft, hright, hl, hr⟩ := h
    have hsize : (mRight.push rel lower).getSize = mRight.getSize + 1 := getSize_push
    exact ⟨by omega, by omega, hl, ih hr⟩

/-- In a balanced tree of a given number of nodes the branches are short. -/
theorem Balanced.two_pow_levels_le (h : t.Balanced) (hsized : t.Sized) :
    t.levels = 0 ∨ 2 ^ t.levels ≤ 2 * t.toList.length := by
  induction t with
  | null => exact Or.inl rfl
  | node mSize mData mLeft mRight ihl ihr =>
    obtain ⟨hleft, hright, hl, hr⟩ := h
    obtain ⟨-, hsl, hsr⟩ := hsized
    rw [hsl.getSize_eq, hsr.getSize_eq] at hleft hright
    have hcons : (LocHeapNode.node mSize mData mLeft mRight).toList.length =
        mLeft.toList.length + mRight.toList.length + 1 := by
      rw [toList, length_cons, length_append]
    rw [hcons, levels]
    right
    -- the longer one of the two branches goes on in a side that holds about half of the nodes
    have hside : ∀ {levels size : ℕ}, levels = 0 ∨ 2 ^ levels ≤ 2 * size →
        2 * size ≤ mLeft.toList.length + mRight.toList.length + 1 →
          2 ^ (levels + 1) ≤ 2 * (mLeft.toList.length + mRight.toList.length + 1) := by
      intro levels size hpow hsize
      rw [pow_succ]
      rcases hpow with rfl | hpow
      · omega
      · omega
    rcases le_total mLeft.levels mRight.levels with hle | hle
    · rw [max_eq_right hle]
      exact hside (ihr hr hsr) (by omega)
    · rw [max_eq_left hle]
      exact hside (ihl hl hsl) (by omega)

theorem Balanced.height_le (h : t.Balanced) (hsized : t.Sized) :
    t.height ≤ Nat.log 2 t.toList.length := by
  rw [height]
  rcases h.two_pow_levels_le hsized with hzero | hpow
  · rw [hzero]
    exact Nat.zero_le _
  · refine Nat.le_log_of_pow_le one_lt_two ?_
    cases hlevels : t.levels with
    | zero =>
      rw [hlevels] at hpow
      omega
    | succ n =>
      rw [hlevels, pow_succ] at hpow
      rw [Nat.add_sub_cancel]
      omega

/-- A heap after a sequence of pushes -/
def pushAll (rel : α → α → Bool) (l : List α) : LocHeapNode α :=
  l.foldl (fun t data ↦ t.push rel data) .null

/-- **Pushes balance the tree.** After any sequence of pushes, whatever the ranks, the sizes of two
siblings differ by one at most, no branch is longer than the logarithm of the number of pushes, and
the next push goes no deeper than that. -/
theorem balanced_pushAll (rel : α → α → Bool) (l : List α) :
    (pushAll rel l).Balanced ∧ (pushAll rel l).height ≤ Nat.log 2 l.length ∧
      ∀ data, ((pushAll rel l).pushCounted rel data).1 = (pushAll rel l).push rel data ∧
        ((pushAll rel l).pushCounted rel data).2 ≤ Nat.log 2 l.length := by
  have hrun : (pushAll rel l).Balanced ∧ (pushAll rel l).Sized ∧
      (pushAll rel l).toList.length = l.length := by
    induction l using List.reverseRecOn with
    | nil => exact ⟨trivial, trivial, rfl⟩
    | append_singleton l data ih =>
      have happend : pushAll rel (l ++ [data]) = (pushAll rel l).push rel data := by
        rw [pushAll, foldl_append, foldl_cons, foldl_nil, ← pushAll]
      rw [happend, (toList_push data _).length_eq, length_cons, length_append, ih.2.2]
      exact ⟨ih.1.push, sized_push ih.2.1, rfl⟩
  have hheight := hrun.1.height_le hrun.2.1
  rw [hrun.2.2] at hheight
  exact ⟨hrun.1, hheight,
    fun data ↦ ⟨pushCounted_spec.1, pushCounted_spec.2.trans hheight⟩⟩

end LocHeapNode

end MataDevice.Timer
