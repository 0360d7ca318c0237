import MataDevice.Lib.History
import MataDevice.Timer.Heap

/-!
# The heap as a priority queue

`LocHeapNode::pop` exchanges the data at the top with that of the child that ranks higher, and again
in the subtree of that child, until the data has come down to a leaf; the leaf is what it detaches
and returns. Here the data on its way down is an argument, and `popSwapped_eq` says that it is what
comes out at the bottom.

`checkNodes` is the check of the source: no child outranks its parent, and every node counts its
subtree. It holds of every tree that the operations make, as long as the ranks of the objects that
are stored together are a total preorder; and then the top is not outranked by any stored object,
and `remove`, which looks only where its object could be, finds every object that is stored.
-/

namespace MataDevice.Timer

open List
open Option (some_inj map_some)

/-- The ranks of the objects of a list are a total preorder. -/
structure RankTotally {α : Type} (ranks : α → α → ℤ) (l : List α) : Prop where
  flip : ∀ x ∈ l, ∀ y ∈ l, (0 < ranks x y ↔ ranks y x < 0)
  trans : ∀ x ∈ l, ∀ y ∈ l, ∀ z ∈ l, 0 ≤ ranks x y → 0 ≤ ranks y z → 0 ≤ ranks x z

/-- `LocRankable::outRanks`. -/
def outRanks {α : Type} (ranks : α → α → ℤ) (self rankable : α) : Bool := 0 < ranks self rankable

namespace RankTotally

variable {α : Type} {ranks : α → α → ℤ} {l l' : List α} {x y z : α}

variable (h : RankTotally ranks l)
include h

theorem of_subset (hs : l' ⊆ l) : RankTotally ranks l' where
  flip x hx y hy := h.flip x (hs hx) y (hs hy)
  trans x hx y hy z hz := h.trans x (hs hx) y (hs hy) z (hs hz)

theorem not_outRanks_iff (hx : x ∈ l) (hy : y ∈ l) :
    outRanks ranks y x = false ↔ 0 ≤ ranks x y := by
  have hflip := h.flip y hy x hx
  rw [outRanks, decide_eq_false_iff_not, hflip, not_lt]

theorem irrefl (hx : x ∈ l) : outRanks ranks x x = false := by
  have hflip := h.flip x hx x hx
  rw [outRanks, decide_eq_false_iff_not]
  omega

theorem asymm (hx : x ∈ l) (hy : y ∈ l)
    (hr : outRanks ranks x y = true) : outRanks ranks y x = false := by
  rw [h.not_outRanks_iff hx hy]
  exact (of_decide_eq_true hr).le

/-- What does not outrank `y` does not outrank anything that `y` does not outrank. -/
theorem not_outRanks_trans (hx : x ∈ l) (hy : y ∈ l) (hz : z ∈ l)
    (hyx : outRanks ranks y x = false) (hzy : outRanks ranks z y = false) :
    outRanks ranks z x = false := by
  rw [h.not_outRanks_iff hx hz]
  exact h.trans x hx y hy z hz ((h.not_outRanks_iff hx hy).mp hyx)
    ((h.not_outRanks_iff hy hz).mp hzy)

end RankTotally

namespace LocHeapNode

variable {α : Type}

/-! ## The operations of the source -/

section Operations

variable (outRanks : α → α → Bool)

/-- `LocHeapNode::pop` of a tree whose top holds `data` in place of its own, by an exchange with its
parent: the data of the leaf that is detached, and what is left. -/
def popSwapped (data : α) : LocHeapNode α → Option α × LocHeapNode α
  | .null => (none, .null)
  | .node mSize _ mLeft mRight =>
    match mLeft, mRight with
    | .null, .null => (some data, .null)
    | .null, .node s d l r =>
      let subTop := popSwapped data (.node s d l r)
      (subTop.1, .node (mSize - 1) d .null subTop.2)
    | .node s d l r, .null =>
      let subTop := popSwapped data (.node s d l r)
      (subTop.1, .node (mSize - 1) d subTop.2 .null)
    | .node s d l r, .node s' d' l' r' =>
      if outRanks d d' then
        let subTop := popSwapped data (.node s d l r)
        (subTop.1, .node (mSize - 1) d subTop.2 (.node s' d' l' r'))
      else
        let subTop := popSwapped data (.node s' d' l' r')
        (subTop.1, .node (mSize - 1) d' (.node s d l r) subTop.2)

/-- `LocHeap::pop`. -/
def pop (top : LocHeapNode α) : Option α × LocHeapNode α :=
  match top with
  | .null => (none, .null)
  | .node _ mData _ _ => top.popSwapped outRanks mData

/-- `LocHeap::remove`. -/
def removeNode [DecidableEq α] (data : α) : LocHeapNode α → Option α × LocHeapNode α
  | .null => (none, .null)
  | .node mSize mData mLeft mRight =>
    if data = mData then pop outRanks (.node mSize mData mLeft mRight)
    else if !outRanks data mData then
      let left := removeNode data mLeft
      if left.1.isSome then (left.1, .node (mSize - 1) mData left.2 mRight)
      else
        let right := removeNode data mRight
        if right.1.isSome then (right.1, .node (mSize - 1) mData left.2 right.2)
        else (none, .node mSize mData left.2 right.2)
    else (none, .node mSize mData mLeft mRight)

/-- Whether a child may stand below `mData`, which it must not outrank. -/
def checkChild (mData : α) (child : LocHeapNode α) : Bool :=
  !child.peek.any fun d ↦ outRanks d mData

/-- `LocHeapNode::checkNodes`, and true of the null pointer. -/
def checkNodes : LocHeapNode α → Bool
  | .null => true
  | .node mSize mData mLeft mRight =>
    checkChild outRanks mData mLeft && checkNodes mLeft &&
      (checkChild outRanks mData mRight && checkNodes mRight) &&
      ((mSize : ℤ) - mLeft.getSize - mRight.getSize == 1)

end Operations

variable {rel : α → α → Bool} {data : α} {t t' : LocHeapNode α}

/-- The data on its way down is what the detached leaf holds. -/
theorem popSwapped_eq (rel : α → α → Bool) (data : α) (t : LocHeapNode α) :
    t.popSwapped rel data = (t.peek.map fun _ ↦ data, t.popped rel) := by
  induction t with
  | null => rfl
  | node mSize mData mLeft mRight ihl ihr =>
    cases mLeft with
    | null =>
      cases mRight with
      | null => rfl
      | node s d l r => simp only [popSwapped, ihr, popped, peek, map_some]
    | node s d l r =>
      cases mRight with
      | null => simp only [popSwapped, ihl, popped, peek, map_some]
      | node s' d' l' r' =>
        simp only [popSwapped, ihl, ihr, popped, peek, map_some]
        split <;> rfl

theorem pop_eq (rel : α → α → Bool) (t : LocHeapNode α) : t.pop rel = (t.peek, t.popped rel) := by
  cases t with
  | null => rfl
  | node mSize mData mLeft mRight =>
    rw [pop, popSwapped_eq]
    rfl

theorem removeNode_eq [DecidableEq α] (rel : α → α → Bool) (data : α) (t : LocHeapNode α) :
    t.removeNode rel data =
      match t.remove rel data with
      | some t' => (some data, t')
      | none => (none, t) := by
  induction t with
  | null => rfl
  | node mSize mData mLeft mRight ihl ihr =>
    rw [removeNode, remove]
    split
    · next heq =>
      rw [pop_eq, heq]
      rfl
    · split
      · rw [ihl, ihr]
        cases mLeft.remove rel data with
        | some left => rfl
        | none =>
          cases mRight.remove rel data with
          | some right => rfl
          | none => rfl
      · rfl

/-! ## Order and sizes -/

/-- No child outranks its parent. -/
def Ordered (rel : α → α → Bool) : LocHeapNode α → Prop
  | .null => True
  | .node _ mData mLeft mRight =>
    (∀ d ∈ mLeft.peek, rel d mData = false) ∧ (∀ d ∈ mRight.peek, rel d mData = false) ∧
      Ordered rel mLeft ∧ Ordered rel mRight

/-- Every node counts the nodes of its subtree. -/
def Sized : LocHeapNode α → Prop
  | .null => True
  | .node mSize _ mLeft mRight =>
    mSize = mLeft.toList.length + mRight.toList.length + 1 ∧ Sized mLeft ∧ Sized mRight

theorem Sized.getSize_eq (h : t.Sized) : t.getSize = t.toList.length := by
  cases t with
  | null => rfl
  | node mSize mData mLeft mRight =>
    rw [getSize, h.1, toList, length_cons, length_append]

theorem checkChild_iff : checkChild rel data t = true ↔ ∀ d ∈ t.peek, rel d data = false := by
  cases t with
  | null => simp [checkChild, peek]
  | node mSize mData mLeft mRight => simp [checkChild, peek]

/-- The check of the source says that a tree is ordered and counted right. -/
theorem checkNodes_iff : t.checkNodes rel = true ↔ t.Ordered rel ∧ t.Sized := by
  induction t with
  | null => simp [checkNodes, Ordered, Sized]
  | node mSize mData mLeft mRight ihl ihr =>
    rw [checkNodes, Bool.and_eq_true, Bool.and_eq_true, Bool.and_eq_true, Bool.and_eq_true,
      checkChild_iff, checkChild_iff, ihl, ihr, beq_iff_eq]
    constructor
    · rintro ⟨⟨⟨hl, hol, hsl⟩, hr, hor, hsr⟩, hsize⟩
      rw [hsl.getSize_eq, hsr.getSize_eq] at hsize
      exact ⟨⟨hl, hr, hol, hor⟩, by omega, hsl, hsr⟩
    · rintro ⟨⟨hl, hr, hol, hor⟩, hsize, hsl, hsr⟩
      refine ⟨⟨⟨hl, hol, hsl⟩, hr, hor, hsr⟩, ?_⟩
      rw [hsl.getSize_eq, hsr.getSize_eq]
      omega

/-! ### Sizes -/

theorem sized_push (h : t.Sized) : (t.push rel data).Sized := by
  fun_induction push rel data t with
  | case1 => exact ⟨rfl, trivial, trivial⟩
  | case2 data mSize mData upper lower mRight =>
    obtain ⟨hs, -, hr⟩ := h
    refine ⟨?_, ⟨rfl, trivial, trivial⟩, hr⟩
    simp only [leaf, toList, length_cons, length_append, length_nil] at hs ⊢
    omega
  | case3 data mSize mData upper lower mLeft =>
    obtain ⟨hs, hl, -⟩ := h
    refine ⟨?_, hl, ⟨rfl, trivial, trivial⟩⟩
    simp only [leaf, toList, length_cons, length_append, length_nil] at hs ⊢
    omega
  | case4 data mSize mData upper lower mLeft mRight _ _ _ ih =>
    obtain ⟨hs, hl, hr⟩ := h
    refine ⟨?_, ih hl, hr⟩
    rw [(toList_push lower mLeft).length_eq, length_cons]
    omega
  | case5 data mSize mData upper lower mLeft mRight _ _ _ ih =>
    obtain ⟨hs, hl, hr⟩ := h
    refine ⟨?_, hl, ih hr⟩
    rw [(toList_push lower mRight).length_eq, length_cons]
    omega

theorem length_popped (rel : α → α → Bool) (h : t.peek = some data) :
    (t.popped rel).toList.length + 1 = t.toList.length := by
  have hperm : (data :: (t.popped rel).toList).Perm t.toList := toList_popped h
  rw [← hperm.length_eq, length_cons]

theorem sized_popped (h : t.Sized) : (t.popped rel).Sized := by
  induction t with
  | null => trivial
  | node mSize mData mLeft mRight ihl ihr =>
    obtain ⟨hs, hl, hr⟩ := h
    cases mLeft with
    | null =>
      cases mRight with
      | null => trivial
      | node s d l r =>
        have hlen := length_popped rel (t := .node s d l r) rfl
        exact ⟨by simp only [toList, length_nil] at hs hlen ⊢; omega, trivial, ihr hr⟩
    | node s d l r =>
      have hlen := length_popped rel (t := .node s d l r) rfl
      cases mRight with
      | null =>
        exact ⟨by simp only [toList, length_nil] at hs hlen ⊢; omega, ihl hl, trivial⟩
      | node s' d' l' r' =>
        have hlen' := length_popped rel (t := .node s' d' l' r') rfl
        rw [popped]
        split
        · exact ⟨by omega, ihl hl, hr⟩
        · exact ⟨by omega, hl, ihr hr⟩

theorem sized_remove [DecidableEq α] (h : t.Sized) (hr : t.remove rel data = some t') :
    t'.Sized := by
  induction t generalizing t' with
  | null => cases hr
  | node mSize mData mLeft mRight ihl ihr =>
    have hs := h
    obtain ⟨hsize, hl, hr'⟩ := h
    rw [remove] at hr
    split at hr
    · obtain rfl := some_inj.mp hr
      exact sized_popped hs
    split at hr
    · split at hr
      · next left hleft =>
        obtain rfl := some_inj.mp hr
        have hlen := (toList_remove hleft).length_eq
        rw [length_cons] at hlen
        exact ⟨by omega, ihl hl hleft, hr'⟩
      split at hr
      · next right hright =>
        obtain rfl := some_inj.mp hr
        have hlen := (toList_remove hright).length_eq
        rw [length_cons] at hlen
        exact ⟨by omega, hl, ihr hr' hright⟩
      · cases hr
    · cases hr

/-! ### Order -/

variable {ranks : α → α → ℤ} {x : α}

/-- An object that the top of an ordered tree does not outrank is not outranked by any object of the
tree. -/
theorem Ordered.not_outRanks (h : t.Ordered (outRanks ranks)) (hd : ∀ d ∈ t.peek,
    outRanks ranks d data = false) (hr : RankTotally ranks (data :: t.toList))
    (hx : x ∈ t.toList) : outRanks ranks x data = false := by
  induction t with
  | null => cases hx
  | node mSize mData mLeft mRight ihl ihr =>
    obtain ⟨hl, hr', hol, hor⟩ := h
    have htop : outRanks ranks mData data = false := hd mData rfl
    -- by way of `mData`, neither child outranks `data`
    have hchild : ∀ sub : LocHeapNode α, sub.toList ⊆ mLeft.toList ++ mRight.toList →
        (∀ d ∈ sub.peek, outRanks ranks d mData = false) →
          ∀ d ∈ sub.peek, outRanks ranks d data = false := by
      intro sub hsub hpeek d hd
      have hmem : d ∈ mLeft.toList ++ mRight.toList := hsub (mem_of_peek hd)
      exact hr.not_outRanks_trans (by simp) (y := mData) (by simp [toList])
        (mem_cons_of_mem _ (mem_cons_of_mem _ hmem)) htop (hpeek d hd)
    rcases mem_cons.mp hx with rfl | hx
    · exact htop
    · rcases mem_append.mp hx with hx | hx
      · refine ihl hol (hchild mLeft (by simp) hl) (hr.of_subset ?_) hx
        exact cons_subset_cons _ fun y hy ↦ by simp [toList, hy]
      · refine ihr hor (hchild mRight (by simp) hr') (hr.of_subset ?_) hx
        exact cons_subset_cons _ fun y hy ↦ by simp [toList, hy]

/-- No object outranks the one at the top. -/
theorem Ordered.not_outRanks_top (h : t.Ordered (outRanks ranks))
    (hr : RankTotally ranks t.toList) {top : α} (ht : t.peek = some top) (hx : x ∈ t.toList) :
    outRanks ranks x top = false := by
  have htop : top ∈ t.toList := mem_of_peek ht
  refine h.not_outRanks ?_ (hr.of_subset (cons_subset.mpr ⟨htop, List.Subset.refl _⟩)) hx
  intro d hd
  obtain rfl := some_inj.mp (ht.symm.trans hd)
  exact hr.irrefl htop

/-- The object that ranks higher of the new one and the one at the top stays there. -/
theorem peek_push_node {mSize : ℕ} {mData : α} {mLeft mRight : LocHeapNode α} :
    (push rel data (.node mSize mData mLeft mRight)).peek
      = some (if rel data mData then data else mData) := by
  rw [push.eq_def]
  cases mLeft <;> cases mRight <;> simp only <;> first | rfl | (split <;> rfl)

/-- The top after a push is the new object or the old top. -/
theorem peek_push {d : α} (h : (t.push rel data).peek = some d) : d = data ∨ t.peek = some d := by
  cases t with
  | null => exact Or.inl (some_inj.mp h).symm
  | node mSize mData mLeft mRight =>
    rw [peek_push_node] at h
    split at h
    · exact Or.inl (some_inj.mp h).symm
    · exact Or.inr h

/-- Of the two objects that meet at a node in a push, the one that goes on does not outrank the one
that stays, and neither does what the object of the node was not outranked by. -/
theorem upper_spec {l : List α} (hr : RankTotally ranks l) (data mData : α) (hd : data ∈ l)
    (hm : mData ∈ l) :
    outRanks ranks (if outRanks ranks data mData then mData else data)
        (if outRanks ranks data mData then data else mData) = false ∧
      ∀ c ∈ l, outRanks ranks c mData = false →
        outRanks ranks c (if outRanks ranks data mData then data else mData) = false := by
  split
  · next hup =>
    have hdown := hr.asymm hd hm hup
    exact ⟨hdown, fun c hc hcm ↦ hr.not_outRanks_trans hd hm hc hdown hcm⟩
  · next hup => exact ⟨by simpa using hup, fun c _ hcm ↦ hcm⟩

theorem lower_subset {mData : α} {l l' : List α} (hl : l ⊆ l') :
    (if rel data mData then mData else data) :: l ⊆ data :: mData :: l' := by
  refine cons_subset.mpr ⟨?_, fun y hy ↦ by simp [hl hy]⟩
  split <;> simp

theorem ordered_push (h : t.Ordered (outRanks ranks)) (hr : RankTotally ranks (data :: t.toList)) :
    (t.push (outRanks ranks) data).Ordered (outRanks ranks) := by
  fun_induction push (outRanks ranks) data t with
  | case1 => simp [leaf, Ordered, peek]
  | case2 data mSize mData upper lower mRight =>
    obtain ⟨-, hr', -, hor⟩ := h
    obtain ⟨hlow, hup⟩ := upper_spec hr data mData (by simp) (by simp [toList])
    refine ⟨?_, ?_, by simp [leaf, Ordered, peek], hor⟩
    · rintro d ⟨⟩
      exact hlow
    · exact fun d hd ↦ hup d (by simp [toList, mem_of_peek hd]) (hr' d hd)
  | case3 data mSize mData upper lower mLeft hne =>
    obtain ⟨hl, -, hol, -⟩ := h
    obtain ⟨hlow, hup⟩ := upper_spec hr data mData (by simp) (by simp [toList])
    refine ⟨?_, ?_, hol, by simp [leaf, Ordered, peek]⟩
    · exact fun d hd ↦ hup d (by simp [toList, mem_of_peek hd]) (hl d hd)
    · rintro d ⟨⟩
      exact hlow
  | case4 data mSize mData upper lower mLeft mRight _ _ _ ih =>
    obtain ⟨hl, hr', hol, hor⟩ := h
    obtain ⟨hlow, hup⟩ := upper_spec hr data mData (by simp) (by simp [toList])
    refine ⟨fun d hd ↦ ?_, ?_, ih hol (hr.of_subset ?_), hor⟩
    · rcases peek_push hd with rfl | hd
      · exact hlow
      · exact hup d (by simp [toList, mem_of_peek hd]) (hl d hd)
    · exact fun d hd ↦ hup d (by simp [toList, mem_of_peek hd]) (hr' d hd)
    · exact lower_subset fun y hy ↦ mem_append_left _ hy
  | case5 data mSize mData upper lower mLeft mRight _ _ _ ih =>
    obtain ⟨hl, hr', hol, hor⟩ := h
    obtain ⟨hlow, hup⟩ := upper_spec hr data mData (by simp) (by simp [toList])
    refine ⟨?_, fun d hd ↦ ?_, hol, ih hor (hr.of_subset ?_)⟩
    · exact fun d hd ↦ hup d (by simp [toList, mem_of_peek hd]) (hl d hd)
    · rcases peek_push hd with rfl | hd
      · exact hlow
      · exact hup d (by simp [toList, mem_of_peek hd]) (hr' d hd)
    · exact lower_subset fun y hy ↦ mem_append_right _ hy

theorem ordered_popped (h : t.Ordered (outRanks ranks)) (hr : RankTotally ranks t.toList) :
    (t.popped (outRanks ranks)).Ordered (outRanks ranks) := by
  induction t with
  | null => trivial
  | node mSize mData mLeft mRight ihl ihr =>
    obtain ⟨hl, hr', hol, hor⟩ := h
    have hrl : RankTotally ranks mLeft.toList := hr.of_subset fun y hy ↦ by simp [toList, hy]
    have hrr : RankTotally ranks mRight.toList := hr.of_subset fun y hy ↦ by simp [toList, hy]
    -- what is left of a subtree does not outrank the object that has gone up from it
    have hsub : ∀ {sub : LocHeapNode α} {d : α}, sub.Ordered (outRanks ranks) →
        RankTotally ranks sub.toList → sub.peek = some d →
          ∀ c ∈ (sub.popped (outRanks ranks)).peek, outRanks ranks c d = false :=
      fun hosub hrsub hd c hc ↦
        hosub.not_outRanks_top hrsub hd (mem_of_mem_popped (mem_of_peek hc))
    cases mLeft with
    | null =>
      cases mRight with
      | null => trivial
      | node s d l r => exact ⟨by simp [peek], hsub hor hrr rfl, trivial, ihr hor hrr⟩
    | node s d l r =>
      cases mRight with
      | null => exact ⟨hsub hol hrl rfl, by simp [peek], ihl hol hrl, trivial⟩
      | node s' d' l' r' =>
        rw [popped]
        split
        · next hup =>
          refine ⟨hsub hol hrl rfl, ?_, ihl hol hrl, hor⟩
          rintro c ⟨⟩
          exact hr.asymm (by simp [toList]) (by simp [toList]) hup
        · next hup =>
          refine ⟨?_, hsub hor hrr rfl, hol, ihr hor hrr⟩
          rintro c ⟨⟩
          simpa using hup

section Remove

variable [DecidableEq α]

theorem ordered_remove (h : t.Ordered (outRanks ranks)) (hr : RankTotally ranks t.toList)
    (hrem : t.remove (outRanks ranks) data = some t') : t'.Ordered (outRanks ranks) := by
  induction t generalizing t' with
  | null => cases hrem
  | node mSize mData mLeft mRight ihl ihr =>
    have hord := h
    obtain ⟨hl, hr', hol, hor⟩ := h
    have hrl : RankTotally ranks mLeft.toList := hr.of_subset fun y hy ↦ by simp [toList, hy]
    have hrr : RankTotally ranks mRight.toList := hr.of_subset fun y hy ↦ by simp [toList, hy]
    have htop : ∀ x ∈ mLeft.toList ++ mRight.toList, outRanks ranks x mData = false :=
      fun x hx ↦ hord.not_outRanks_top hr rfl (mem_cons_of_mem _ hx)
    rw [remove] at hrem
    split at hrem
    · obtain rfl := some_inj.mp hrem
      exact ordered_popped hord hr
    split at hrem
    · split at hrem
      · next left hleft =>
        obtain rfl := some_inj.mp hrem
        refine ⟨fun d hd ↦ htop d (mem_append_left _ ?_), hr', ihl hol hrl hleft, hor⟩
        exact (toList_remove hleft).subset (mem_cons_of_mem _ (mem_of_peek hd))
      split at hrem
      · next right hright =>
        obtain rfl := some_inj.mp hrem
        refine ⟨hl, fun d hd ↦ htop d (mem_append_right _ ?_), hol, ihr hor hrr hright⟩
        exact (toList_remove hright).subset (mem_cons_of_mem _ (mem_of_peek hd))
      · cases hrem
    · cases hrem

/-- `remove` finds every object of an ordered tree. -/
theorem exists_remove_of_mem (h : t.Ordered (outRanks ranks)) (hr : RankTotally ranks t.toList)
    (hx : x ∈ t.toList) : ∃ t', t.remove (outRanks ranks) x = some t' := by
  induction t with
  | null => cases hx
  | node mSize mData mLeft mRight ihl ihr =>
    rw [remove]
    split
    · exact ⟨_, rfl⟩
    · next hne =>
      -- the object is below `mData`, so that it does not outrank it and the search goes on
      have hguard := h.not_outRanks_top hr rfl hx
      rw [hguard, Bool.not_false, if_pos rfl]
      split
      · exact ⟨_, rfl⟩
      · next hleft =>
        rcases mem_cons.mp hx with heq | hx
        · exact absurd heq hne
        rcases mem_append.mp hx with hx | hx
        · obtain ⟨left, hsome⟩ := ihl h.2.2.1 (hr.of_subset fun y hy ↦ by simp [toList, hy]) hx
          rw [hleft] at hsome
          cases hsome
        · obtain ⟨right, hright⟩ := ihr h.2.2.2 (hr.of_subset fun y hy ↦ by simp [toList, hy]) hx
          rw [hright]
          exact ⟨_, rfl⟩

theorem exists_remove_iff (h : t.Ordered (outRanks ranks)) (hr : RankTotally ranks t.toList) :
    (∃ t', t.remove (outRanks ranks) x = some t') ↔ x ∈ t.toList := by
  refine ⟨?_, exists_remove_of_mem h hr⟩
  rintro ⟨t', ht'⟩
  exact (toList_remove ht').subset mem_cons_self

end Remove

end LocHeapNode

/-! ## Runs of a heap -/

/-- A call of a client of `LocHeap`. -/
inductive HeapCall (α : Type)
  | push (rankable : α)
  | peek
  | pop
  | remove (rankable : α)
  deriving DecidableEq, Repr

/-- What a call returns, `none` for a null pointer. -/
inductive HeapReturn (α : Type)
  | peeked (top : Option α)
  | popped (locNode : Option α)
  | removed (locNode : Option α)
  deriving DecidableEq, Repr

section Runs

variable {α : Type}

/-- The object that a call pushes. -/
def HeapCall.pushed : HeapCall α → Option α
  | .push rankable => some rankable
  | .peek | .pop | .remove _ => none

/-- The object that is gone from the heap with a return. -/
def HeapReturn.taken : HeapReturn α → Option α
  | .popped locNode | .removed locNode => locNode
  | .peeked _ => none

/-- The objects that were pushed. -/
def pushed (hist : List (Item (HeapCall α) (HeapReturn α))) : List α :=
  (eventsOf hist).filterMap HeapCall.pushed

/-- The objects that were popped or removed. -/
def taken (hist : List (Item (HeapCall α) (HeapReturn α))) : List α :=
  (outsOf hist).filterMap HeapReturn.taken

/-- An object is pushed only while it is not stored, and only if it and the stored objects rank in a
total preorder. -/
def Admits (ranks : α → α → ℤ) (mTree : LocHeapNode α) : HeapCall α → Prop
  | .push rankable => rankable ∉ mTree.toList ∧ RankTotally ranks (rankable :: mTree.toList)
  | _ => True

variable [DecidableEq α] (ranks : α → α → ℤ)

def heapStep (mTree : LocHeapNode α) : HeapCall α → Option (LocHeapNode α × List (HeapReturn α))
  | .push rankable => some (mTree.push (outRanks ranks) rankable, [])
  | .peek => some (mTree, [.peeked mTree.peek])
  | .pop =>
    let (locNode, mTree) := mTree.pop (outRanks ranks)
    some (mTree, [.popped locNode])
  | .remove rankable =>
    let (locNode, mTree) := mTree.removeNode (outRanks ranks) rankable
    some (mTree, [.removed locNode])

instance (l : List α) : Decidable (RankTotally ranks l) :=
  decidable_of_iff ((∀ x ∈ l, ∀ y ∈ l, (0 < ranks x y ↔ ranks y x < 0)) ∧
    ∀ x ∈ l, ∀ y ∈ l, ∀ z ∈ l, 0 ≤ ranks x y → 0 ≤ ranks y z → 0 ≤ ranks x z)
    ⟨fun h ↦ ⟨h.1, h.2⟩, fun h ↦ ⟨h.flip, h.trans⟩⟩

instance (mTree : LocHeapNode α) : DecidablePred (Admits ranks mTree)
  | .push _ => inferInstanceAs (Decidable (_ ∧ _))
  | .peek | .pop | .remove _ => .isTrue trivial

variable {ranks} {hist : List (Item (HeapCall α) (HeapReturn α))} {mTree mTree' : LocHeapNode α}
  {call : HeapCall α} {outs : List (HeapReturn α)}

/-- A call moves objects between the client and the heap, and loses none. -/
theorem perm_heapStep (h : heapStep ranks mTree call = some (mTree', outs)) :
    (call.pushed.toList ++ mTree.toList).Perm
      (outs.filterMap HeapReturn.taken ++ mTree'.toList) := by
  cases call with
  | push rankable =>
    obtain ⟨rfl, rfl⟩ := some_pair_inj h
    exact (LocHeapNode.toList_push rankable mTree).symm
  | peek =>
    obtain ⟨rfl, rfl⟩ := some_pair_inj h
    exact .refl _
  | pop =>
    rw [heapStep, LocHeapNode.pop_eq] at h
    obtain ⟨rfl, rfl⟩ := some_pair_inj h
    cases hpeek : mTree.peek with
    | none =>
      cases mTree with
      | null => exact .refl _
      | node mSize mData mLeft mRight => cases hpeek
    | some top => exact (LocHeapNode.toList_popped hpeek).symm
  | remove rankable =>
    rw [heapStep, LocHeapNode.removeNode_eq] at h
    cases hrem : mTree.remove (outRanks ranks) rankable with
    | none =>
      rw [hrem] at h
      obtain ⟨rfl, rfl⟩ := some_pair_inj h
      exact .refl _
    | some left =>
      rw [hrem] at h
      obtain ⟨rfl, rfl⟩ := some_pair_inj h
      exact (LocHeapNode.toList_remove hrem).symm

/-- The invariant of a run. -/
structure PriorityQueue (ranks : α → α → ℤ) (hist : List (Item (HeapCall α) (HeapReturn α)))
    (mTree : LocHeapNode α) : Prop where
  ordered : mTree.Ordered (outRanks ranks)
  sized : mTree.Sized
  totally : RankTotally ranks mTree.toList
  nodup : mTree.toList.Nodup
  perm : (pushed hist).Perm (taken hist ++ mTree.toList)

theorem PriorityQueue.step (h : PriorityQueue ranks hist mTree) (hg : Admits ranks mTree call)
    (hs : heapStep ranks mTree call = some (mTree', outs)) :
    PriorityQueue ranks (hist ++ entry call outs) mTree' := by
  have hperm := perm_heapStep hs
  -- what is stored after the call was stored before it or pushed by it
  have hall : RankTotally ranks (call.pushed.toList ++ mTree.toList) ∧
      (call.pushed.toList ++ mTree.toList).Nodup := by
    cases call with
    | push rankable => exact ⟨hg.2, nodup_cons.mpr ⟨hg.1, h.nodup⟩⟩
    | _ => exact ⟨h.totally, h.nodup⟩
  have hsound : mTree'.Ordered (outRanks ranks) ∧ mTree'.Sized := by
    cases call with
    | push rankable =>
      obtain ⟨rfl, -⟩ := some_pair_inj hs
      exact ⟨LocHeapNode.ordered_push h.ordered hg.2, LocHeapNode.sized_push h.sized⟩
    | peek =>
      obtain ⟨rfl, -⟩ := some_pair_inj hs
      exact ⟨h.ordered, h.sized⟩
    | pop =>
      rw [heapStep, LocHeapNode.pop_eq] at hs
      obtain ⟨rfl, -⟩ := some_pair_inj hs
      exact ⟨LocHeapNode.ordered_popped h.ordered h.totally, LocHeapNode.sized_popped h.sized⟩
    | remove rankable =>
      rw [heapStep, LocHeapNode.removeNode_eq] at hs
      cases hrem : mTree.remove (outRanks ranks) rankable with
      | none =>
        rw [hrem] at hs
        obtain ⟨rfl, -⟩ := some_pair_inj hs
        exact ⟨h.ordered, h.sized⟩
      | some left =>
        rw [hrem] at hs
        obtain ⟨rfl, -⟩ := some_pair_inj hs
        exact ⟨LocHeapNode.ordered_remove h.ordered h.totally hrem,
          LocHeapNode.sized_remove h.sized hrem⟩
  refine ⟨hsound.1, hsound.2, ?_, ?_, ?_⟩
  · exact hall.1.of_subset fun x hx ↦ hperm.symm.subset (mem_append_right _ hx)
  · exact (nodup_append.mp (hperm.nodup_iff.mp hall.2)).2.1
  · have hpushed : pushed (hist ++ entry call outs) = pushed hist ++ call.pushed.toList := by
      rw [pushed, eventsOf_append_entry, filterMap_append, ← pushed]
      cases hc : call.pushed <;> simp [hc]
    have htaken : taken (hist ++ entry call outs)
        = taken hist ++ outs.filterMap HeapReturn.taken := by
      rw [taken, outsOf_append_entry, filterMap_append, ← taken]
    rw [hpushed, htaken, append_assoc]
    refine (h.perm.append_right _).trans ?_
    rw [append_assoc]
    exact (perm_append_comm.trans hperm).append_left _

end Runs

/-- **A priority queue.** In every run of pushes, pops, peeks and removes in which no object is
pushed while it is stored, and the objects stored together rank in a total preorder, the tree passes
its check, the stored objects are those pushed and not yet taken, `remove` takes just the objects
that are stored, and `pop` and `peek` return an object that no stored object outranks, and null only
if there is none. -/
theorem priorityQueue_of_run {α : Type} [DecidableEq α] {ranks : α → α → ℤ}
    {hist : List (Item (HeapCall α) (HeapReturn α))} {mTree : LocHeapNode α}
    (h : Run (heapStep ranks) (Admits ranks) .null hist mTree) :
    mTree.checkNodes (outRanks ranks) = true ∧
      mTree.toList.Nodup ∧ (pushed hist).Perm (taken hist ++ mTree.toList) ∧
      (∀ x, (mTree.removeNode (outRanks ranks) x).1 = if x ∈ mTree.toList then some x else none) ∧
      (mTree.pop (outRanks ranks)).1 = mTree.peek ∧ (mTree.peek = none ↔ mTree.toList = []) ∧
      ∀ top, mTree.peek = some top →
        top ∈ mTree.toList ∧ ∀ x ∈ mTree.toList, outRanks ranks x top = false := by
  have hq : PriorityQueue ranks hist mTree := by
    refine h.invariant (I := PriorityQueue ranks) ?_ fun hq hg hs ↦ hq.step hg hs
    exact ⟨trivial, trivial, ⟨by simp [LocHeapNode.toList], by simp [LocHeapNode.toList]⟩,
      nodup_nil, .nil⟩
  refine ⟨LocHeapNode.checkNodes_iff.mpr ⟨hq.ordered, hq.sized⟩, hq.nodup, hq.perm, fun x ↦ ?_, ?_,
    ?_, fun top ht ↦ ⟨LocHeapNode.mem_of_peek ht, fun x hx ↦ ?_⟩⟩
  · have hiff := LocHeapNode.exists_remove_iff (x := x) hq.ordered hq.totally
    rw [LocHeapNode.removeNode_eq]
    cases hrem : mTree.remove (outRanks ranks) x with
    | none =>
      rw [if_neg]
      rw [← hiff, hrem]
      simp
    | some left => rw [if_pos (hiff.mp ⟨left, hrem⟩)]
  · rw [LocHeapNode.pop_eq]
  · cases mTree with
    | null => simp [LocHeapNode.peek, LocHeapNode.toList]
    | node mSize mData mLeft mRight => simp [LocHeapNode.peek, LocHeapNode.toList]
  · exact hq.ordered.not_outRanks_top hq.totally ht hx

/-- The smaller one of two numbers ranks higher. -/
def smallerFirst (x y : ℕ) : ℤ := (y : ℤ) - x

/-- Four numbers, one of which is removed and one popped. -/
theorem priorityQueue_of_run_numbers :
    ∃ hist mTree, Run (heapStep smallerFirst) (Admits smallerFirst) .null hist mTree ∧
      mTree.toList = [4, 7] ∧ mTree.checkNodes (outRanks smallerFirst) = true ∧
      (pushed hist).Perm (taken hist ++ mTree.toList) := by
  obtain ⟨hist, mTree, hrun, hlist⟩ := Run.exists_of_runEvents
    (heapStep smallerFirst) (Admits smallerFirst) .null
    [.push 7, .push 4, .push 9, .push 2, .remove 9, .peek, .pop]
    (fun _ mTree ↦ mTree.toList = [4, 7]) (by decide)
  have hq := priorityQueue_of_run hrun
  exact ⟨hist, mTree, hrun, hlist, hq.1, hq.2.2.1⟩

end MataDevice.Timer
