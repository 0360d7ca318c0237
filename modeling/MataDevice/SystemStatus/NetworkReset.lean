import MataDevice.SystemStatus.NetworkTable

/-!
# The reset of the networks

`resetNetworkInfo` should leave no network connected. It does not look at the table of networks, but
sends one disconnect for each item of the cache, which has the last few items only. A network whose
item is no longer in the cache stays in the table.

The mask is right in the end if the table is, but for the types that the mask had without a network
of the type in the table. A disconnect clears such a type if it is put into the cache and has this
type, or replaces the whole mask. It is put into the cache if it changes the newest item: if it
comes first and the newest item is connected, if its network is still in the table, or if the APN
changes.

The notifications are processed after the reset has sent all of them. There is no assumption on the
events before: any types and handles, known or not, in any order.
-/

namespace MataDevice.SystemStatus

open List

/-- The event that a cached item is reset with. -/
def SystemStatusNetworkInfo.resetEvent (x : SystemStatusNetworkInfo) : NetworkEvent where
  connected := false
  type := x.mType
  roaming := x.mRoaming
  networkHandle := x.mNetworkHandle
  apn := x.mApn

/-- The calls of `eventConnectionStatus`. -/
def resetNetworkInfo (mNetworkInfo : List SystemStatusNetworkInfo) : List NetworkEvent :=
  mNetworkInfo.map SystemStatusNetworkInfo.resetEvent

/-- After a reset, the newest item has no connected network. -/
def ResetComplete (events : List NetworkEvent) : Prop :=
  ∀ newest, (report (events ++ resetNetworkInfo (report events))).getLast? = some newest →
    (∀ slot ∈ newest.mAllNetworkHandles, slot.networkHandle = networkHandleUnknown) ∧
      newest.mAllTypes = 0

/-! ## Slots in general -/

/-- The used slots, followed by slots without a handle. -/
structure IsSlots (used slots : List NetworkInfoType) : Prop where
  eq : ∃ rest, slots = used ++ rest ∧ ∀ slot ∈ rest, slot.networkHandle = networkHandleUnknown
  length : slots.length = maxNetworkHandles
  nodup : (used.map NetworkInfoType.networkHandle).Nodup
  known : ∀ slot ∈ used, slot.networkHandle ≠ networkHandleUnknown

namespace IsSlots

variable {used slots : List NetworkInfoType} {slot : NetworkInfoType}

theorem mem_iff (h : IsSlots used slots) :
    slot ∈ used ↔ slot ∈ slots ∧ slot.networkHandle ≠ networkHandleUnknown := by
  obtain ⟨rest, rfl, hrest⟩ := h.eq
  constructor
  · exact fun hs ↦ ⟨mem_append_left _ hs, h.known slot hs⟩
  · rintro ⟨hs, hne⟩
    exact (mem_append.mp hs).resolve_right fun hs ↦ hne (hrest slot hs)

theorem length_connect (info : NetworkInfoType) (slots : List NetworkInfoType) :
    (SystemStatus.connect info slots).length = slots.length := by
  induction slots with
  | nil => rfl
  | cons slot slots ih =>
    rw [SystemStatus.connect]
    split
    · rfl
    · split
      · rfl
      · rw [length_cons, ih, length_cons]

theorem connect (h : IsSlots used slots) (info : NetworkInfoType) :
    ∃ used', IsSlots used' (connect info slots) := by
  have hlength := length_connect info slots
  rw [h.length] at hlength
  obtain ⟨rest, rfl, hrest⟩ := h.eq
  by_cases hmem : info.networkHandle ∈ used.map NetworkInfoType.networkHandle
  · rw [connect_append_of_mem h.known hmem] at hlength ⊢
    exact ⟨used, ⟨rest, rfl, hrest⟩, hlength, h.nodup, h.known⟩
  · rw [connect_append_of_not_mem h.known hmem] at hlength ⊢
    cases rest with
    | nil => exact ⟨used, ⟨[], rfl, hrest⟩, hlength, h.nodup, h.known⟩
    | cons first rest =>
      have hfirst := hrest first (by simp)
      by_cases hinfo : info.networkHandle = networkHandleUnknown
      · rw [SystemStatus.connect, if_pos (hinfo.trans hfirst.symm)] at hlength ⊢
        exact ⟨used, ⟨_, rfl, hrest⟩, hlength, h.nodup, h.known⟩
      · rw [connect_cons hinfo hfirst] at hlength ⊢
        refine ⟨used ++ [info], ⟨rest, by simp, fun slot hs ↦ hrest slot (by simp [hs])⟩, hlength,
          ?_, fun slot hs ↦ ?_⟩
        · rw [map_append, map_singleton]
          exact h.nodup.append (nodup_singleton _) (disjoint_singleton.mpr hmem)
        · rcases mem_append.mp hs with hs | hs
          · exact h.known slot hs
          · rw [mem_singleton.mp hs]
            exact hinfo

theorem disconnect (h : IsSlots used slots) (info : NetworkInfoType) :
    (scan info slots ⟨maxNetworkHandles, 0, 0⟩).typeCount = used.countP (SameType info ·) ∧
      ∃ used', IsSlots used' (disconnect info slots) ∧
        ∀ slot, slot ∈ used' ↔ slot ∈ used ∧ slot ≠ info := by
  have hlength := h.length
  obtain ⟨rest, rfl, hfree⟩ := h.eq
  obtain ⟨hcount, used', rest', heq, hrest, hnodup, hmem⟩ :=
    exists_disconnect h.known h.nodup hfree hlength
  refine ⟨hcount, used', ⟨⟨rest', heq, ?_⟩, ?_, hnodup, fun slot hs ↦ ?_⟩, hmem⟩
  · rcases hrest with rfl | rfl
    · exact hfree
    · simpa using hfree
  · rw [length_disconnect, hlength]
  · exact h.known slot ((hmem slot).mp hs).1

/-- A network that goes changes the slots if it is one of the used ones. -/
theorem disconnect_eq_iff (h : IsSlots used slots) (info : NetworkInfoType) :
    SystemStatus.disconnect info slots = slots ↔ info ∉ used := by
  obtain ⟨-, used', hslots, hmem⟩ := h.disconnect info
  constructor
  · intro heq hinfo
    have hinfo' : info ∈ used' := by
      rw [hslots.mem_iff, heq]
      exact h.mem_iff.mp hinfo
    exact ((hmem info).mp hinfo').2 rfl
  · intro hinfo
    obtain ⟨rest, rfl, hrest⟩ := h.eq
    exact (disconnect_of_not_mem h.known hrest hinfo).2

end IsSlots

/-! ## The newest item of any events -/

section Newest

variable {e : NetworkEvent} {back : SystemStatusNetworkInfo} {used : List NetworkInfoType}

theorem collate_of_unknown (hc : e.connected = false) (ht : e.type = .unknown) :
    (e.item.collate back).mAllNetworkHandles = back.mAllNetworkHandles ∧
      (e.item.collate back).mAllTypes = 0 := by
  simp [SystemStatusNetworkInfo.collate, NetworkEvent.item, hc, ht, typeToAllTypes]

theorem exists_isSlots_item (e : NetworkEvent) :
    ∃ used, IsSlots used e.item.mAllNetworkHandles := by
  have hlength : e.item.mAllNetworkHandles.length = maxNetworkHandles := by
    simp [NetworkEvent.item, maxNetworkHandles]
  by_cases hh : e.networkHandle = networkHandleUnknown
  · refine ⟨[], ⟨_, rfl, fun slot hs ↦ ?_⟩, hlength, nodup_nil, by simp⟩
    rcases mem_cons.mp hs with rfl | hs
    · exact hh
    · exact networkHandle_of_mem_replicate hs
  · exact ⟨[e.info], ⟨List.replicate (maxNetworkHandles - 1) .free, rfl,
      fun _ ↦ networkHandle_of_mem_replicate⟩, hlength, nodup_singleton _,
      by simpa [NetworkEvent.info] using hh⟩

theorem exists_isSlots_collate (h : IsSlots used back.mAllNetworkHandles) (e : NetworkEvent) :
    ∃ used', IsSlots used' (e.item.collate back).mAllNetworkHandles := by
  cases hc : e.connected with
  | true =>
    rw [(collate_of_connected hc).1]
    exact h.connect e.info
  | false =>
    by_cases ht : e.type = .unknown
    · rw [(collate_of_unknown hc ht).1]
      exact ⟨used, h⟩
    · rw [(collate_of_not_connected hc ht).1]
      obtain ⟨-, used', hslots, -⟩ := h.disconnect e.info
      exact ⟨used', hslots⟩

/-- Whatever the events are, the used slots of the newest item come first. -/
theorem exists_isSlots {events : List NetworkEvent} {newest : SystemStatusNetworkInfo}
    (h : (report events).getLast? = some newest) :
    ∃ used, IsSlots used newest.mAllNetworkHandles := by
  induction events using List.reverseRecOn generalizing newest with
  | nil => cases h
  | append_singleton events e ih =>
    rw [getLast?_report_concat] at h
    obtain rfl := Option.some_inj.mp h
    rw [newestAfter.eq_def]
    cases hback : (report events).getLast? with
    | none => exact exists_isSlots_item e
    | some back =>
      obtain ⟨used, hslots⟩ := ih hback
      dsimp only
      split
      · exact ⟨used, hslots⟩
      · exact exists_isSlots_collate hslots e

end Newest

/-! ## One disconnect of a reset -/

section Step

variable (newest : SystemStatusNetworkInfo) (ys : List SystemStatusNetworkInfo)
  (y : SystemStatusNetworkInfo)

/-- The network of a cached item. -/
def SystemStatusNetworkInfo.info (x : SystemStatusNetworkInfo) : NetworkInfoType :=
  ⟨x.mNetworkHandle, x.mType⟩

/-- The APN of the newest item after the disconnect of `y`. -/
def apnAfter (apn : String) (y : SystemStatusNetworkInfo) : String :=
  if y.mType ≠ .mobile ∧ apn ≠ "" then apn else y.mApn

/-- The newest item after the disconnects of `ys`. -/
def afterReset : SystemStatusNetworkInfo :=
  ys.foldl (fun newest y ↦ newestAfter (some newest) y.resetEvent.item) newest

theorem afterReset_concat :
    afterReset newest (ys ++ [y])
      = newestAfter (some (afterReset newest ys)) y.resetEvent.item := by
  rw [afterReset, foldl_append]
  rfl

/-- The network of `y` is in the table, and no disconnect of `ys` takes it out. -/
def StaysListed (slot : NetworkInfoType) : Prop :=
  slot ∈ newest.mAllNetworkHandles ∧ slot.networkHandle ≠ networkHandleUnknown ∧
    ¬(slot.networkType ≠ .unknown ∧ ∃ y ∈ ys, y.info = slot)

/-- The disconnect of `y` is put into the cache, after those of `ys`. -/
def Records : Prop :=
  ys = [] ∧ newest.mConnected = true ∨ y.mType ≠ .unknown ∧ StaysListed newest ys y.info ∨
    apnAfter (ys.foldl apnAfter newest.mApn) y ≠ ys.foldl apnAfter newest.mApn

/-- There is another network of the type of `y` then. -/
def OthersStay : Prop := ∃ slot, StaysListed newest ys slot ∧ SameType y.info slot

variable {newest ys y} {used : List NetworkInfoType}

/-- What `equals` compares is that of the collated item, whether it is put into the cache or not. -/
theorem newestAfter_some (back s : SystemStatusNetworkInfo) :
    (newestAfter (some back) s).mConnected = (s.collate back).mConnected ∧
      (newestAfter (some back) s).mAllNetworkHandles = (s.collate back).mAllNetworkHandles ∧
      (newestAfter (some back) s).mApn = (s.collate back).mApn := by
  dsimp only [newestAfter]
  split
  · next heq =>
    obtain ⟨hconnected, hslots, hapn⟩ := of_decide_eq_true heq
    exact ⟨hconnected.symm, hslots, hapn.symm⟩
  · exact ⟨rfl, rfl, rfl⟩

theorem collate_resetEvent (back : SystemStatusNetworkInfo) :
    (y.resetEvent.item.collate back).mConnected = false ∧
      (y.resetEvent.item.collate back).mAllNetworkHandles
        = (if y.mType = .unknown then back.mAllNetworkHandles
          else disconnect y.info back.mAllNetworkHandles) ∧
      (y.resetEvent.item.collate back).mApn = apnAfter back.mApn y := by
  refine ⟨collate_mConnected, ?_, ?_⟩
  · split
    · next ht => exact (collate_of_unknown rfl ht).1
    · next ht => exact (collate_of_not_connected rfl ht).1
  · unfold SystemStatusNetworkInfo.collate
    dsimp only
    split
    · rfl
    · split
      · rfl
      · rfl

theorem staysListed_concat {slot : NetworkInfoType} :
    StaysListed newest (ys ++ [y]) slot ↔
      StaysListed newest ys slot ∧ ¬(slot.networkType ≠ .unknown ∧ y.info = slot) := by
  simp only [StaysListed, mem_append, mem_singleton, or_and_right, exists_or,
    exists_eq_left, and_or_left, not_or, and_assoc]

/-- The table, the APN and the connection of the newest item after some disconnects. -/
theorem afterReset_spec (h : IsSlots used newest.mAllNetworkHandles)
    (ys : List SystemStatusNetworkInfo) :
    (∃ left, IsSlots left (afterReset newest ys).mAllNetworkHandles ∧
      ∀ slot, slot ∈ left ↔ StaysListed newest ys slot) ∧
    (afterReset newest ys).mApn = ys.foldl apnAfter newest.mApn ∧
    ((afterReset newest ys).mConnected = true ↔ ys = [] ∧ newest.mConnected = true) := by
  induction ys using List.reverseRecOn with
  | nil =>
    refine ⟨⟨used, h, fun slot ↦ ?_⟩, rfl, by simp [afterReset]⟩
    rw [h.mem_iff]
    simp [StaysListed]
  | append_singleton ys y ih =>
    obtain ⟨⟨left, hleft, hmem⟩, hapn, -⟩ := ih
    obtain ⟨hconnected', hslots', hapn'⟩ :=
      newestAfter_some (afterReset newest ys) y.resetEvent.item
    obtain ⟨hconnected, hslots, hapnAfter⟩ := collate_resetEvent (y := y) (afterReset newest ys)
    rw [afterReset_concat, hconnected', hslots', hapn', hconnected, hslots, hapnAfter, hapn]
    refine ⟨?_, ?_, by simp⟩
    · split
      · next ht =>
        refine ⟨left, hleft, fun slot ↦ ?_⟩
        rw [hmem, staysListed_concat]
        refine (and_iff_left fun ⟨hne, heq⟩ ↦ hne ?_).symm
        rw [← heq]
        exact ht
      · next ht =>
        obtain ⟨-, left', hleft', hmem'⟩ := hleft.disconnect y.info
        refine ⟨left', hleft', fun slot ↦ ?_⟩
        rw [hmem', hmem, staysListed_concat]
        refine and_congr_right fun _ ↦ not_congr ⟨fun heq ↦ ?_, fun hgone ↦ hgone.2.symm⟩
        rw [heq]
        exact ⟨ht, rfl⟩
    · rw [foldl_append]
      rfl

/-- The disconnect is put into the cache, or is dropped. -/
theorem equals_iff_not_records (h : IsSlots used newest.mAllNetworkHandles) :
    (afterReset newest ys).equals (y.resetEvent.item.collate (afterReset newest ys)) = true ↔
      ¬Records newest ys y := by
  obtain ⟨⟨left, hleft, hmem⟩, hapn, hconn⟩ := afterReset_spec h ys
  obtain ⟨hconnected, hslots, hapnAfter⟩ := collate_resetEvent (y := y) (afterReset newest ys)
  have hslots' : (afterReset newest ys).mAllNetworkHandles
      = (y.resetEvent.item.collate (afterReset newest ys)).mAllNetworkHandles ↔
      ¬(y.mType ≠ .unknown ∧ StaysListed newest ys y.info) := by
    rw [hslots, ← hmem]
    split
    · next ht => simp [ht]
    · next ht => rw [eq_comm, hleft.disconnect_eq_iff, not_and, imp_iff_right ht]
  rw [SystemStatusNetworkInfo.equals, decide_eq_true_iff, hslots', hconnected, hapnAfter, hapn,
    Records, not_or, not_or, not_ne_iff, ← hconn]
  refine and_congr_left' ?_
  rw [Bool.not_eq_true, eq_comm]

theorem getLsbD_and_not (m m' : BitVec 64) (b : ℕ) :
    (m &&& ~~~m').getLsbD b = true ↔ m.getLsbD b = true ∧ ¬m'.getLsbD b = true := by
  rw [BitVec.getLsbD_and, BitVec.getLsbD_not, Bool.and_eq_true, Bool.and_eq_true,
    decide_eq_true_iff, Bool.not_eq_true', Bool.not_eq_true]
  exact and_congr_right fun hbit ↦ and_iff_right (BitVec.lt_of_getLsbD hbit)

/-- What a disconnect does to the mask. -/
theorem getLsbD_afterReset_concat (h : IsSlots used newest.mAllNetworkHandles) (b : ℕ) :
    (afterReset newest (ys ++ [y])).mAllTypes.getLsbD b = true ↔
      ¬Records newest ys y ∧ (afterReset newest ys).mAllTypes.getLsbD b = true ∨
      Records newest ys y ∧ y.mType ≠ .unknown ∧
        (OthersStay newest ys y ∧ y.mType.index = b ∨
          ¬OthersStay newest ys y ∧ y.mType.index ≠ b ∧
            (afterReset newest ys).mAllTypes.getLsbD b = true) := by
  rw [afterReset_concat, newestAfter]
  have hequals : _ ↔ ¬Records newest ys y := equals_iff_not_records h
  by_cases hrec : Records newest ys y
  · rw [if_neg (mt hequals.mp (not_not.mpr hrec))]
    by_cases ht : y.mType = .unknown
    · rw [(collate_of_unknown rfl ht).2]
      simp [hrec, ht]
    · obtain ⟨⟨left, hleft, hmem⟩, -⟩ := afterReset_spec h ys
      have hcount : (scan y.info (afterReset newest ys).mAllNetworkHandles
          ⟨maxNetworkHandles, 0, 0⟩).typeCount = 0 ↔ ¬OthersStay newest ys y := by
        rw [(hleft.disconnect y.info).1, countP_eq_zero, OthersStay, not_exists]
        refine forall_congr' fun slot ↦ ?_
        rw [hmem, decide_eq_true_iff, not_and]
      have hmask : (y.resetEvent.item.collate (afterReset newest ys)).mAllTypes
          = if (scan y.info (afterReset newest ys).mAllNetworkHandles
              ⟨maxNetworkHandles, 0, 0⟩).typeCount = 0 then
              (afterReset newest ys).mAllTypes &&& ~~~typeToAllTypes y.mType
            else typeToAllTypes y.mType := (collate_of_not_connected rfl ht).2
      rw [hmask]
      by_cases hothers : OthersStay newest ys y
      · rw [if_neg (mt hcount.mp (not_not.mpr hothers)), getLsbD_typeToAllTypes ht]
        simp [hrec, ht, hothers]
      · rw [if_pos (hcount.mpr hothers), getLsbD_and_not, getLsbD_typeToAllTypes ht]
        simp [hrec, ht, hothers, and_comm]
  · rw [if_pos (hequals.mpr hrec)]
    simp [hrec]

/-- The table has a network of the type with this bit. -/
def ListsType (newest : SystemStatusNetworkInfo) (b : ℕ) : Prop :=
  ∃ slot ∈ newest.mAllNetworkHandles, slot.networkHandle ≠ networkHandleUnknown ∧
    slot.networkType.index = b

/-- The disconnect of `y` clears a bit that no network of the table has. -/
def Sweeps (newest : SystemStatusNetworkInfo) (ys : List SystemStatusNetworkInfo)
    (y : SystemStatusNetworkInfo) (b : ℕ) : Prop :=
  Records newest ys y ∧ (y.mType = .unknown ∨ y.mType.index = b ∨ OthersStay newest ys y)

/-- One of the disconnects clears the bit. -/
def Swept (newest : SystemStatusNetworkInfo) (ys : List SystemStatusNetworkInfo) (b : ℕ) : Prop :=
  ∃ pre y post, ys = pre ++ y :: post ∧ Sweeps newest pre y b

theorem not_swept_nil {b : ℕ} : ¬Swept newest [] b := by
  rintro ⟨pre, y, post, heq, -⟩
  exact append_ne_nil_of_right_ne_nil pre (cons_ne_nil y post) heq.symm

theorem swept_concat {b : ℕ} :
    Swept newest (ys ++ [y]) b ↔ Swept newest ys b ∨ Sweeps newest ys y b := by
  constructor
  · rintro ⟨pre, y', post, heq, hsweeps⟩
    rcases eq_nil_or_concat post with rfl | ⟨post, last, rfl⟩
    · obtain ⟨rfl, hy⟩ := append_inj' heq rfl
      obtain rfl := singleton_inj.mp hy
      exact .inr hsweeps
    · rw [concat_eq_append, ← cons_append, ← append_assoc] at heq
      obtain ⟨rfl, -⟩ := append_inj' heq rfl
      exact .inl ⟨pre, y', post, rfl, hsweeps⟩
  · rintro (⟨pre, y', post, rfl, hsweeps⟩ | hsweeps)
    · exact ⟨pre, y', post ++ [y], by simp, hsweeps⟩
    · exact ⟨ys, y, [], rfl, hsweeps⟩

theorem staysListed_nil {slot : NetworkInfoType} :
    StaysListed newest [] slot ↔
      slot ∈ newest.mAllNetworkHandles ∧ slot.networkHandle ≠ networkHandleUnknown := by
  simp [StaysListed]

theorem OthersStay.listsType (h : OthersStay newest ys y) : ListsType newest y.mType.index := by
  obtain ⟨slot, ⟨hmem, hknown, -⟩, hsame⟩ := h
  exact ⟨slot, hmem, hknown, congrArg _ hsame.1.symm⟩

variable (h : IsSlots used newest.mAllNetworkHandles)
include h

/-- A bit of the mask that no network of the table has goes when a disconnect clears it. -/
theorem getLsbD_afterReset_of_not_listsType {b : ℕ}
    (hnot : ¬ListsType newest b) (ys : List SystemStatusNetworkInfo) :
    (afterReset newest ys).mAllTypes.getLsbD b = true ↔
      newest.mAllTypes.getLsbD b = true ∧ ¬Swept newest ys b := by
  induction ys using List.reverseRecOn with
  | nil => simp [afterReset, not_swept_nil]
  | append_singleton ys y ih =>
    have hothers : OthersStay newest ys y → y.mType.index ≠ b := by
      rintro hstay rfl
      exact hnot hstay.listsType
    rw [getLsbD_afterReset_concat h, ih, swept_concat, Sweeps]
    by_cases hrec : Records newest ys y
    · by_cases hstay : OthersStay newest ys y
      · simp [hrec, hstay, hothers hstay]
      · simp [hrec, hstay]
        tauto
    · simp [hrec]

/-- A bit of the mask that networks of the table have goes with the last of them. -/
theorem not_getLsbD_afterReset_of_gone {b : ℕ}
    (hlists : ListsType newest b) (ys : List SystemStatusNetworkInfo)
    (hgone : ∀ slot, StaysListed newest ys slot → slot.networkType.index ≠ b) :
    ¬(afterReset newest ys).mAllTypes.getLsbD b = true := by
  induction ys using List.reverseRecOn with
  | nil =>
    obtain ⟨slot, hmem, hknown, hindex⟩ := hlists
    exact absurd hindex (hgone slot (staysListed_nil.mpr ⟨hmem, hknown⟩))
  | append_singleton ys y ih =>
    -- the disconnect either takes the last of them out, or comes after that
    have hlast : (afterReset newest ys).mAllTypes.getLsbD b = true →
        Records newest ys y ∧ y.mType.index = b := by
      intro hbit
      by_contra hnot
      refine ih (fun slot hstays hindex ↦ ?_) hbit
      have hout : slot.networkType ≠ .unknown ∧ y.info = slot := by
        by_contra hstill
        exact hgone slot (staysListed_concat.mpr ⟨hstays, hstill⟩) hindex
      obtain ⟨hknown, rfl⟩ := hout
      exact hnot ⟨.inr (.inl ⟨hknown, hstays⟩), hindex⟩
    have hothers : OthersStay newest ys y → y.mType.index ≠ b := by
      rintro ⟨slot, hstays, hsame⟩ hindex
      refine hgone slot (staysListed_concat.mpr ⟨hstays, fun hout ↦ ?_⟩)
        ((congrArg _ hsame.1.symm).trans hindex)
      rw [← hout.2] at hsame
      exact hsame.2 rfl
    rw [getLsbD_afterReset_concat h]
    tauto

/-- The table is empty when nothing stays listed. -/
theorem handles_unknown_iff :
    (∀ slot ∈ (afterReset newest ys).mAllNetworkHandles,
      slot.networkHandle = networkHandleUnknown) ↔ ∀ slot, ¬StaysListed newest ys slot := by
  obtain ⟨⟨left, hleft, hmem⟩, -⟩ := afterReset_spec h ys
  refine forall_congr' fun slot ↦ ?_
  rw [← hmem, hleft.mem_iff, not_and, not_ne_iff]

end Step

/-! ## The whole reset -/

theorem mAllTypes_eq_zero_iff {info : SystemStatusNetworkInfo} :
    info.mAllTypes = 0 ↔ ∀ b, ¬info.mAllTypes.getLsbD b = true := by
  constructor
  · intro hzero b
    simp [hzero]
  · intro hnone
    refine BitVec.eq_of_getLsbD_eq fun b hb ↦ ?_
    rw [Bool.eq_false_of_not_eq_true (hnone b)]
    simp

theorem getLast?_report_reset {events : List NetworkEvent} {newest : SystemStatusNetworkInfo}
    (h : (report events).getLast? = some newest) (ys : List SystemStatusNetworkInfo) :
    (report (events ++ resetNetworkInfo ys)).getLast? = some (afterReset newest ys) := by
  induction ys using List.reverseRecOn with
  | nil => rwa [resetNetworkInfo, map_nil, List.append_nil]
  | append_singleton ys y ih =>
    rw [resetNetworkInfo, map_append, ← append_assoc]
    refine (getLast?_report_concat _ _).trans ?_
    rw [afterReset_concat, ← ih]
    rfl

/-- Every network of the table has an item in the cache that it is reset with, and every other type
of the mask is cleared by one of the disconnects. -/
structure Resettable (mNetworkInfo : List SystemStatusNetworkInfo)
    (newest : SystemStatusNetworkInfo) : Prop where
  covered : ∀ slot ∈ newest.mAllNetworkHandles, slot.networkHandle ≠ networkHandleUnknown →
    slot.networkType ≠ .unknown ∧ ∃ y ∈ mNetworkInfo, y.info = slot
  swept : ∀ b, newest.mAllTypes.getLsbD b = true →
    ListsType newest b ∨ Swept newest mNetworkInfo b

/-- **The reset of the networks.** For any events, no network is connected after the reset and the
mask is zero if and only if the cache was empty, or its newest item can be reset by its items. -/
theorem resetComplete_iff (events : List NetworkEvent) :
    ResetComplete events ↔
      ∀ newest, (report events).getLast? = some newest → Resettable (report events) newest := by
  cases hlast : (report events).getLast? with
  | none =>
    have hnil := getLast?_eq_none_iff.mp hlast
    refine iff_of_true (fun newest h ↦ ?_) (by simp)
    rw [hnil, resetNetworkInfo, map_nil, List.append_nil, hlast] at h
    cases h
  | some newest =>
    obtain ⟨used, hslots⟩ := exists_isSlots hlast
    rw [ResetComplete, getLast?_report_reset hlast]
    simp only [Option.some_inj, forall_eq']
    rw [handles_unknown_iff hslots, mAllTypes_eq_zero_iff]
    constructor
    · rintro ⟨hnone, hzero⟩
      refine ⟨fun slot hs hknown ↦ ?_, fun b hbit ↦ ?_⟩
      · by_contra hnot
        exact hnone slot ⟨hs, hknown, hnot⟩
      · by_contra hnot
        rw [not_or] at hnot
        exact hzero b ((getLsbD_afterReset_of_not_listsType hslots hnot.1 _).mpr ⟨hbit, hnot.2⟩)
    · rintro ⟨hcovered, hswept⟩
      have hnone : ∀ slot, ¬StaysListed newest (report events) slot :=
        fun slot ⟨hs, hknown, hnot⟩ ↦ hnot (hcovered slot hs hknown)
      refine ⟨hnone, fun b ↦ ?_⟩
      by_cases hlists : ListsType newest b
      · exact not_getLsbD_afterReset_of_gone hslots hlists _
          fun slot hstays ↦ absurd hstays (hnone slot)
      · rw [getLsbD_afterReset_of_not_listsType hslots hlists]
        rintro ⟨hbit, hnot⟩
        exact (hswept b hbit).elim hlists hnot

/-- Six mobile networks get connected. -/
def sixNetworks : List NetworkEvent :=
  (List.range 6).map fun h ↦ ⟨true, .mobile, false, UInt64.ofNat h, "apn"⟩

/-- Of six networks, the first is not reset, for its item has left the cache. -/
theorem not_resetComplete :
    ¬∀ typeOf events, Notified typeOf events → ResetComplete events := by
  intro hcomplete
  have hn : Notified (fun _ ↦ .mobile) sixNetworks :=
    notified_of_length_le (by decide) (by decide)
  have hreset : (report (sixNetworks ++ resetNetworkInfo (report sixNetworks))).getLast?.map
      (·.mAllNetworkHandles.head?) = some (some ⟨0, .mobile⟩) := by decide +kernel
  obtain ⟨newest, hlast, hhead⟩ := Option.map_eq_some_iff.mp hreset
  have hunknown := (hcomplete _ _ hn newest hlast).1 ⟨0, .mobile⟩ (mem_of_head? hhead)
  revert hunknown
  decide

end MataDevice.SystemStatus
