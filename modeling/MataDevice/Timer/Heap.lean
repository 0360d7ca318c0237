import Mathlib.Data.List.Perm.Basic

/-!
# The heap of ranked objects

`LocHeap` keeps the objects of a client in a binary tree in which no child outranks its parent. Its
nodes never move: pushing and popping exchange the data of nodes, and the only changes to the tree
are a new leaf and a leaf that goes. Every node counts the nodes of its subtree, and a new object
goes to the smaller side.

How objects rank is up to the client, so that `outRanks` is a parameter here. What the operations do
to the contents does not depend on it.
-/

namespace MataDevice.Timer

/-- A link to a node; `null` is the null pointer. -/
inductive LocHeapNode (α : Type)
  | null
  | node (mSize : ℕ) (mData : α) (mLeft mRight : LocHeapNode α)
  deriving DecidableEq, Repr

namespace LocHeapNode

variable {α : Type}

/-- A node on its own. -/
def leaf (data : α) : LocHeapNode α := .node 1 data .null .null

def getSize : LocHeapNode α → ℕ
  | .null => 0
  | .node mSize _ _ _ => mSize

/-- `LocHeap::peek`. -/
def peek : LocHeapNode α → Option α
  | .null => none
  | .node _ mData _ _ => some mData

/-- The objects of a tree. -/
def toList : LocHeapNode α → List α
  | .null => []
  | .node _ mData mLeft mRight => mData :: (mLeft.toList ++ mRight.toList)

section Ranking

variable (outRanks : α → α → Bool)

/-- `LocHeap::push`. The object that ranks lower of the new one and the one at the top goes on. -/
def push (data : α) : LocHeapNode α → LocHeapNode α
  | .null => leaf data
  | .node mSize mData mLeft mRight =>
    let upper := if outRanks data mData then data else mData
    let lower := if outRanks data mData then mData else data
    match mLeft, mRight with
    | .null, mRight => .node (mSize + 1) upper (leaf lower) mRight
    | mLeft, .null => .node (mSize + 1) upper mLeft (leaf lower)
    | mLeft, mRight =>
      if mLeft.getSize ≤ mRight.getSize then
        .node (mSize + 1) upper (push lower mLeft) mRight
      else .node (mSize + 1) upper mLeft (push lower mRight)

/-- What `LocHeapNode::pop` leaves of a tree. The data at the top is exchanged with that of the
child that ranks higher, all the way down to a leaf, which goes. Nothing looks at the data on its
way down, so that the popped node carries what `peek` returned. -/
def popped : LocHeapNode α → LocHeapNode α
  | .null => .null
  | .node mSize _ mLeft mRight =>
    match mLeft, mRight with
    | .null, .null => .null
    | .null, .node s d l r => .node (mSize - 1) d .null (popped (.node s d l r))
    | .node s d l r, .null => .node (mSize - 1) d (popped (.node s d l r)) .null
    | .node s d l r, .node s' d' l' r' =>
      if outRanks d d' then
        .node (mSize - 1) d (popped (.node s d l r)) (.node s' d' l' r')
      else .node (mSize - 1) d' (.node s d l r) (popped (.node s' d' l' r'))

variable [DecidableEq α]

/-- `LocHeapNode::remove`: what it leaves of a tree, if it found the object. -/
def remove (data : α) : LocHeapNode α → Option (LocHeapNode α)
  | .null => none
  | .node mSize mData mLeft mRight =>
    if data = mData then some (popped outRanks (.node mSize mData mLeft mRight))
    else if !outRanks data mData then
      match remove data mLeft with
      | some mLeft => some (.node (mSize - 1) mData mLeft mRight)
      | none =>
        match remove data mRight with
        | some mRight => some (.node (mSize - 1) mData mLeft mRight)
        | none => none
    else none

end Ranking

/-! ## Contents -/

variable {outRanks : α → α → Bool}

/-- The two objects that meet at a node, in either order. -/
theorem perm_upper_lower (outRanks : α → α → Bool) (x y : α) (l : List α) :
    ((if outRanks x y then x else y) :: (if outRanks x y then y else x) :: l).Perm
      (x :: y :: l) := by
  split
  · exact .refl _
  · exact .swap ..

theorem toList_push (data : α) (t : LocHeapNode α) :
    (t.push outRanks data).toList.Perm (data :: t.toList) := by
  fun_induction push outRanks data t with
  | case1 => exact .refl _
  | case2 data mSize mData mRight upper lower => exact perm_upper_lower outRanks data mData _
  | case3 data mSize mData upper lower mLeft =>
    have hleaf : (mLeft.toList ++ [lower]).Perm (lower :: (mLeft.toList ++ [])) := List.perm_middle
    exact (hleaf.cons upper).trans (perm_upper_lower outRanks data mData _)
  | case4 data mSize mData upper lower mLeft mRight _ _ _ ih =>
    exact ((ih.append_right _).cons upper).trans (perm_upper_lower outRanks data mData _)
  | case5 data mSize mData upper lower mLeft mRight _ _ _ ih =>
    exact (((ih.append_left _).trans List.perm_middle).cons upper).trans
      (perm_upper_lower outRanks data mData _)

variable {t : LocHeapNode α} {data : α}

/-- Popping takes the object at the top. -/
theorem toList_popped (h : t.peek = some data) :
    (data :: (t.popped outRanks).toList).Perm t.toList := by
  induction t generalizing data with
  | null => cases h
  | node mSize mData mLeft mRight ihl ihr =>
    obtain rfl := Option.some_inj.mp h
    refine List.Perm.cons _ ?_
    cases mLeft with
    | null =>
      cases mRight with
      | null => exact .refl _
      | node s d l r => exact ihr rfl
    | node s d l r =>
      cases mRight with
      | null => exact (ihl rfl).append_right []
      | node s' d' l' r' =>
        rw [popped]
        split
        · exact (ihl rfl).append_right _
        · exact List.perm_middle.symm.trans ((ihr rfl).append_left _)

theorem mem_of_peek (h : t.peek = some data) :
    data ∈ t.toList := by
  cases t with
  | null => cases h
  | node mSize mData mLeft mRight =>
    obtain rfl := Option.some_inj.mp h
    exact List.mem_cons_self

theorem mem_of_mem_popped (h : data ∈ (t.popped outRanks).toList) : data ∈ t.toList := by
  cases ht : t.peek with
  | none =>
    cases t with
    | null => exact h
    | node mSize mData mLeft mRight => cases ht
  | some top => exact (toList_popped ht).subset (List.mem_cons_of_mem _ h)

variable [DecidableEq α]

theorem toList_remove {t t' : LocHeapNode α} (h : t.remove outRanks data = some t') :
    (data :: t'.toList).Perm t.toList := by
  induction t generalizing t' with
  | null => cases h
  | node mSize mData mLeft mRight ihl ihr =>
    rw [remove] at h
    split at h
    · next heq =>
      obtain rfl := heq
      obtain rfl := Option.some_inj.mp h
      exact toList_popped rfl
    split at h
    · split at h
      · next hl =>
        obtain rfl := Option.some_inj.mp h
        exact (List.Perm.swap ..).trans (((ihl hl).append_right _).cons mData)
      split at h
      · next hr =>
        obtain rfl := Option.some_inj.mp h
        exact (List.Perm.swap ..).trans
          ((List.perm_middle.symm.trans ((ihr hr).append_left _)).cons mData)
      · cases h
    · cases h

/-- What is in a tree after an object was to be removed from it. -/
theorem mem_of_mem_remove {data x : α}
    (h : x ∈ ((t.remove outRanks data).getD t).toList) : x ∈ t.toList := by
  cases ht : t.remove outRanks data with
  | none =>
    rw [ht] at h
    exact h
  | some t' =>
    rw [ht] at h
    exact (toList_remove ht).subset (List.mem_cons_of_mem _ h)

end LocHeapNode

end MataDevice.Timer
