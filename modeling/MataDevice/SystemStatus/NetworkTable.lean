import Mathlib.Data.Set.Card
import MataDevice.SystemStatus.NetworkInfo

/-!
# The table of connected networks

After each event the newest item should list the networks that are connected: each of them once, in
the first slots of the table, and its type in the mask. The table is right after every event but a
first one that is a disconnect, which is put into the cache as it comes. The mask is not: when a
network goes while another one of its type stays, the item keeps the mask it came with, which has
its own type only.
-/

namespace MataDevice.SystemStatus

open List

/-- What an event says about a handle: the type it is connected with, or that it is not. -/
def NetworkEvent.about (h : NetworkHandle) (e : NetworkEvent) : Option (Option NetworkType) :=
  if e.networkHandle = h then some (if e.connected then some e.type else none) else none

/-- The type with which a handle is connected after some events. -/
def connected (events : List NetworkEvent) (h : NetworkHandle) : Option NetworkType :=
  (latest (NetworkEvent.about h) events).join

theorem connected_concat (events : List NetworkEvent) (e : NetworkEvent) (h : NetworkHandle) :
    connected (events ++ [e]) h =
      if e.networkHandle = h then if e.connected then some e.type else none
      else connected events h := by
  rw [connected, latest_concat, NetworkEvent.about]
  split
  · rfl
  · rfl

/-- The item lists the networks that are connected: a prefix of its table has each of them once,
with its type, the slots after it are free, and its mask has their types. -/
structure Lists (s : SystemStatusNetworkInfo) (conn : NetworkHandle → Option NetworkType) :
    Prop where
  table : ∃ used, used <+: s.mAllNetworkHandles ∧
    (∀ slot ∈ s.mAllNetworkHandles.drop used.length, slot.networkHandle = networkHandleUnknown) ∧
    (used.map NetworkInfoType.networkHandle).Nodup ∧
    ∀ h t, ⟨h, t⟩ ∈ used ↔ conn h = some t
  mask : ∀ i, s.mAllTypes.getLsbD i = true ↔ ∃ h t, conn h = some t ∧ t.index = i

/-- After the events, the newest item lists the networks that are connected. -/
def NewestLists (events : List NetworkEvent) : Prop :=
  ∃ newest, (report events).getLast? = some newest ∧ Lists newest (connected events)

/-- The events `SystemStatus` is notified of: a handle has one type, both are known, and no more
than `MAX_NETWORK_HANDLES` handles are connected at a time. -/
structure Notified (typeOf : NetworkHandle → NetworkType) (events : List NetworkEvent) : Prop where
  type_eq : ∀ e ∈ events, e.type = typeOf e.networkHandle
  type_ne : ∀ e ∈ events, e.type ≠ .unknown
  handle_ne : ∀ e ∈ events, e.networkHandle ≠ networkHandleUnknown
  bounded : ∀ pre, pre <+: events →
    {h | (connected pre h).isSome}.encard ≤ (maxNetworkHandles : ℕ)

/-! ## The slots -/

/-- The used slots, followed by free ones. -/
structure IsTable (used slots : List NetworkInfoType) : Prop where
  eq : ∃ k, slots = used ++ List.replicate k .free
  length : slots.length = maxNetworkHandles
  nodup : (used.map NetworkInfoType.networkHandle).Nodup
  known : ∀ slot ∈ used, slot.networkHandle ≠ networkHandleUnknown

/-- The used slots of a table end where the free ones start. -/
theorem IsTable.unique {used used' slots : List NetworkInfoType} (h : IsTable used slots)
    (h' : IsTable used' slots) : used = used' := by
  obtain ⟨k, rfl⟩ := h.eq
  obtain ⟨k', heq⟩ := h'.eq
  have hfilter : ∀ (l : List NetworkInfoType) (k : ℕ),
      (∀ slot ∈ l, slot.networkHandle ≠ networkHandleUnknown) →
      (l ++ List.replicate k NetworkInfoType.free).filter
        (·.networkHandle ≠ networkHandleUnknown) = l := by
    intro l k hl
    have hfree : (List.replicate k NetworkInfoType.free).filter
        (·.networkHandle ≠ networkHandleUnknown) = [] := by simp
    rw [filter_append, hfree, List.append_nil, filter_eq_self]
    simpa using hl
  rw [← hfilter used k h.known, heq, hfilter used' k' h'.known]

theorem connect_append_of_mem {info : NetworkInfoType} {used rest : List NetworkInfoType}
    (hknown : ∀ slot ∈ used, slot.networkHandle ≠ networkHandleUnknown)
    (hmem : info.networkHandle ∈ used.map NetworkInfoType.networkHandle) :
    connect info (used ++ rest) = used ++ rest := by
  induction used with
  | nil => simp at hmem
  | cons slot used ih =>
    rw [cons_append, connect]
    split
    · rfl
    · next hne =>
      rw [if_neg (hknown slot (by simp)).symm,
        ih (fun s hs ↦ hknown s (mem_cons_of_mem _ hs))]
      rw [map_cons, mem_cons] at hmem
      exact hmem.resolve_left hne

theorem connect_append_of_not_mem {info : NetworkInfoType} {used rest : List NetworkInfoType}
    (hknown : ∀ slot ∈ used, slot.networkHandle ≠ networkHandleUnknown)
    (hmem : info.networkHandle ∉ used.map NetworkInfoType.networkHandle) :
    connect info (used ++ rest) = used ++ connect info rest := by
  induction used with
  | nil => rfl
  | cons slot used ih =>
    rw [map_cons, mem_cons, not_or] at hmem
    rw [cons_append, connect, if_neg hmem.1, if_neg (hknown slot (by simp)).symm,
      ih (fun s hs ↦ hknown s (mem_cons_of_mem _ hs)) hmem.2, cons_append]

/-- The first slot that is not used gets the network, if that has a handle. -/
theorem connect_cons {info slot : NetworkInfoType} {rest : List NetworkInfoType}
    (hinfo : info.networkHandle ≠ networkHandleUnknown)
    (hslot : slot.networkHandle = networkHandleUnknown) :
    connect info (slot :: rest) = info :: rest := by
  rw [connect, hslot, if_neg hinfo, if_pos rfl]

section Scan

variable {info : NetworkInfoType} {used : List NetworkInfoType} {found : Scan}

theorem scan_append (hknown : ∀ slot ∈ used, slot.networkHandle ≠ networkHandleUnknown)
    (rest : List NetworkInfoType) :
    scan info (used ++ rest) found = scan info rest (scan info used found) := by
  induction used generalizing found with
  | nil => rfl
  | cons slot used ih =>
    have hslot := (hknown slot (by simp)).symm
    rw [cons_append, scan, scan, if_neg hslot, if_neg hslot]
    exact ih fun s hs ↦ hknown s (mem_cons_of_mem _ hs)

theorem scan_rest {rest : List NetworkInfoType}
    (hrest : ∀ slot ∈ rest, slot.networkHandle = networkHandleUnknown) :
    scan info rest found = found := by
  cases rest with
  | nil => rfl
  | cons slot rest => rw [scan, hrest slot (by simp), if_pos rfl]

/-- The slots of the same type and another handle. -/
def SameType (info slot : NetworkInfoType) : Prop :=
  info.networkType = slot.networkType ∧ info.networkHandle ≠ slot.networkHandle

instance (info slot : NetworkInfoType) : Decidable (SameType info slot) :=
  inferInstanceAs (Decidable (_ ∧ _))

/-- A scan that does not come to the network counts the others of its type. -/
theorem scan_of_not_mem (hknown : ∀ slot ∈ used, slot.networkHandle ≠ networkHandleUnknown)
    (hmem : info ∉ used) :
    scan info used found = ⟨found.deletedIndex, found.lastValidIndex + used.length,
      found.typeCount + used.countP (SameType info ·)⟩ := by
  induction used generalizing found with
  | nil => rfl
  | cons slot used ih =>
    rw [mem_cons, not_or] at hmem
    rw [scan, if_neg (hknown slot (by simp)).symm,
      ih (fun s hs ↦ hknown s (mem_cons_of_mem _ hs)) hmem.2, countP_cons,
      length_cons]
    by_cases htype : info.networkType = slot.networkType
    · have hhandle : info.networkHandle ≠ slot.networkHandle := by
        intro heq
        exact hmem.1 (by cases info; cases slot; simp_all)
      simp [SameType, htype, hhandle]
      omega
    · simp [SameType, htype]
      omega

/-- The scan of a whole table that lists the network. -/
theorem scan_of_mem {l l' rest : List NetworkInfoType}
    (hknown : ∀ slot ∈ l ++ info :: l', slot.networkHandle ≠ networkHandleUnknown)
    (hnodup : ((l ++ info :: l').map NetworkInfoType.networkHandle).Nodup)
    (hrest : ∀ slot ∈ rest, slot.networkHandle = networkHandleUnknown) :
    scan info ((l ++ info :: l') ++ rest) ⟨maxNetworkHandles, 0, 0⟩ =
      ⟨l.length, l.length + 1 + l'.length, (l ++ info :: l').countP (SameType info ·)⟩ := by
  rw [map_append, map_cons, nodup_middle, nodup_cons, mem_append,
    not_or] at hnodup
  obtain ⟨⟨hl, hl'⟩, -⟩ := hnodup
  simp only [mem_append, mem_cons] at hknown
  rw [append_assoc, scan_append (fun s hs ↦ hknown s (Or.inl hs)),
    scan_of_not_mem (fun s hs ↦ hknown s (Or.inl hs)) (mt mem_map_of_mem hl),
    cons_append, scan, if_neg (hknown info (Or.inr (Or.inl rfl))).symm, if_pos rfl, if_pos rfl,
    scan_append (fun s hs ↦ hknown s (Or.inr (Or.inr hs))),
    scan_of_not_mem (fun s hs ↦ hknown s (Or.inr (Or.inr hs))) (mt mem_map_of_mem hl'),
    scan_rest hrest, countP_append, countP_cons]
  simp [SameType]

end Scan

/-- Overwriting a used slot by the last one, and freeing that, takes the slot out of the table. -/
theorem exists_perm_of_delete (info : NetworkInfoType) (l l' rest : List NetworkInfoType) :
    let slots := (l ++ info :: l') ++ rest
    let last := l.length + l'.length
    ∃ used, used.Perm (l ++ l') ∧
      (slots.set l.length (slots.getD last .free)).set last .free = used ++ .free :: rest := by
  intro slots last
  rcases eq_nil_or_concat l' with rfl | ⟨l', z, rfl⟩
  · refine ⟨l, by simp, ?_⟩
    simp [slots, last]
  · refine ⟨l ++ z :: l', ?_, ?_⟩
    · rw [concat_eq_append]
      exact (perm_append_singleton z l').symm.append_left l
    · have hlast : slots.getD last .free = z := by
        simp [slots, last]
      rw [hlast]
      simp [slots, last]

section Table

variable {info : NetworkInfoType} {used slots : List NetworkInfoType}

/-- A handle that is listed is listed with its type. -/
theorem IsTable.handle_not_mem (hslot : ∀ slot ∈ used, slot.networkHandle = info.networkHandle →
    slot = info) (hmem : info ∉ used) :
    info.networkHandle ∉ used.map NetworkInfoType.networkHandle := by
  intro h
  obtain ⟨slot, hs, heq⟩ := mem_map.mp h
  exact hmem (hslot slot hs heq ▸ hs)

theorem IsTable.connect (h : IsTable used slots) (hinfo : info.networkHandle ≠ networkHandleUnknown)
    (hslot : ∀ slot ∈ used, slot.networkHandle = info.networkHandle → slot = info)
    (hroom : info ∉ used → used.length < maxNetworkHandles) :
    ∃ used', IsTable used' (connect info slots) ∧
      ∀ slot, slot ∈ used' ↔ slot ∈ used ∨ slot = info := by
  have hlength := h.length
  obtain ⟨k, rfl⟩ := h.eq
  by_cases hmem : info ∈ used
  · refine ⟨used, ?_, fun slot ↦ ?_⟩
    · rw [connect_append_of_mem h.known (mem_map_of_mem hmem)]
      exact h
    · refine ⟨Or.inl, ?_⟩
      rintro (hs | rfl)
      · exact hs
      · exact hmem
  · have hnot := IsTable.handle_not_mem hslot hmem
    obtain ⟨k, rfl⟩ : ∃ k', k = k' + 1 := by
      have := hroom hmem
      rw [length_append, length_replicate] at hlength
      exact ⟨k - 1, by omega⟩
    refine ⟨used ++ [info], ⟨⟨k, ?_⟩, ?_, ?_, ?_⟩, by simp⟩
    · rw [replicate_succ, connect_append_of_not_mem h.known hnot,
        connect_cons hinfo NetworkInfoType.networkHandle_free, append_assoc,
        singleton_append]
    · rw [replicate_succ, connect_append_of_not_mem h.known hnot,
        connect_cons hinfo NetworkInfoType.networkHandle_free]
      simpa [add_assoc, add_comm] using hlength
    · rw [map_append, map_singleton]
      exact h.nodup.append (nodup_singleton _) (disjoint_singleton.mpr hnot)
    · intro slot hs
      rcases mem_append.mp hs with hs | hs
      · exact h.known slot hs
      · rw [mem_singleton.mp hs]
        exact hinfo

/-- The slots after a handle has gone. -/
def disconnect (info : NetworkInfoType) (slots : List NetworkInfoType) : List NetworkInfoType :=
  let found := scan info slots ⟨maxNetworkHandles, 0, 0⟩
  if found.deletedIndex ≠ maxNetworkHandles then
    (slots.set found.deletedIndex (slots.getD (found.lastValidIndex - 1) .free)).set
      (found.lastValidIndex - 1) .free
  else slots

theorem length_disconnect (info : NetworkInfoType) (slots : List NetworkInfoType) :
    (disconnect info slots).length = slots.length := by
  dsimp only [disconnect]
  split
  · rw [length_set, length_set]
  · rfl

variable {rest : List NetworkInfoType}

theorem disconnect_of_not_mem (hknown : ∀ slot ∈ used, slot.networkHandle ≠ networkHandleUnknown)
    (hrest : ∀ slot ∈ rest, slot.networkHandle = networkHandleUnknown) (hmem : info ∉ used) :
    (scan info (used ++ rest) ⟨maxNetworkHandles, 0, 0⟩).typeCount
        = used.countP (SameType info ·) ∧
      disconnect info (used ++ rest) = used ++ rest := by
  have hscan : scan info (used ++ rest) ⟨maxNetworkHandles, 0, 0⟩ =
      ⟨maxNetworkHandles, used.length, used.countP (SameType info ·)⟩ := by
    rw [scan_append hknown, scan_of_not_mem hknown hmem, scan_rest hrest]
    simp
  exact ⟨by rw [hscan], by simp [disconnect, hscan]⟩

/-- What a network that goes leaves, with other slots than the used ones at the end. -/
theorem exists_disconnect (hknown : ∀ slot ∈ used, slot.networkHandle ≠ networkHandleUnknown)
    (hnodup : (used.map NetworkInfoType.networkHandle).Nodup)
    (hrest : ∀ slot ∈ rest, slot.networkHandle = networkHandleUnknown)
    (hlength : (used ++ rest).length = maxNetworkHandles) :
    (scan info (used ++ rest) ⟨maxNetworkHandles, 0, 0⟩).typeCount
        = used.countP (SameType info ·) ∧
      ∃ used' rest', disconnect info (used ++ rest) = used' ++ rest' ∧
        (rest' = rest ∨ rest' = .free :: rest) ∧
        (used'.map NetworkInfoType.networkHandle).Nodup ∧
        ∀ slot, slot ∈ used' ↔ slot ∈ used ∧ slot ≠ info := by
  by_cases hmem : info ∈ used
  · obtain ⟨l, l', rfl⟩ := append_of_mem hmem
    have hne : l.length ≠ maxNetworkHandles := by
      simp only [length_append, length_cons] at hlength
      omega
    have hlast : l.length + 1 + l'.length - 1 = l.length + l'.length := by omega
    obtain ⟨used', hperm, heq⟩ := exists_perm_of_delete info l l' rest
    simp only [SystemStatus.disconnect, scan_of_mem hknown hnodup hrest, if_pos hne, hlast]
    rw [map_append, map_cons, nodup_middle, nodup_cons, ← map_append]
      at hnodup
    refine ⟨trivial, used', .free :: rest, heq, .inr rfl, ((hperm.map _).nodup_iff).mpr hnodup.2,
      fun slot ↦ ?_⟩
    rw [hperm.mem_iff, mem_append, mem_append, mem_cons]
    constructor
    · intro hs
      refine ⟨hs.imp_right Or.inr, ?_⟩
      rintro rfl
      exact hnodup.1 (mem_map_of_mem (mem_append.mpr hs))
    · rintro ⟨hs | rfl | hs, hne⟩
      · exact Or.inl hs
      · exact absurd rfl hne
      · exact Or.inr hs
  · obtain ⟨hcount, heq⟩ := disconnect_of_not_mem hknown hrest hmem
    refine ⟨hcount, used, rest, heq, .inl rfl, hnodup, fun slot ↦ ⟨fun hs ↦ ⟨hs, ?_⟩, And.left⟩⟩
    rintro rfl
    exact hmem hs

theorem networkHandle_of_mem_replicate {k : ℕ} {slot : NetworkInfoType}
    (h : slot ∈ List.replicate k NetworkInfoType.free) :
    slot.networkHandle = networkHandleUnknown := by
  rw [eq_of_mem_replicate h, NetworkInfoType.networkHandle_free]

theorem IsTable.disconnect (info : NetworkInfoType) (h : IsTable used slots) :
    (scan info slots ⟨maxNetworkHandles, 0, 0⟩).typeCount = used.countP (SameType info ·) ∧
      ∃ used', IsTable used' (disconnect info slots) ∧
        ∀ slot, slot ∈ used' ↔ slot ∈ used ∧ slot ≠ info := by
  have hlength := h.length
  obtain ⟨k, rfl⟩ := h.eq
  obtain ⟨hcount, used', rest', heq, hrest, hnodup, hmem⟩ :=
    exists_disconnect h.known h.nodup (fun _ ↦ networkHandle_of_mem_replicate) hlength
  refine ⟨hcount, used', ⟨?_, ?_, hnodup, fun slot hs ↦ h.known slot ((hmem slot).mp hs).1⟩, hmem⟩
  · rcases hrest with rfl | rfl
    · exact ⟨k, heq⟩
    · exact ⟨k + 1, heq⟩
  · rw [length_disconnect, hlength]

end Table

/-! ## Collating an event -/

theorem getLsbD_typeToAllTypes {t : NetworkType} (h : t ≠ .unknown) (i : ℕ) :
    (typeToAllTypes t).getLsbD i = true ↔ t.index = i := by
  have hbit : typeToAllTypes t = BitVec.twoPow 64 t.index := by
    cases t with
    | unknown => exact absurd rfl h
    | _ => rfl
  have hlt : t.index < 64 := by cases t <;> decide
  rw [hbit, BitVec.getLsbD_twoPow]
  simp [hlt]

/-- The slot of an event. -/
def NetworkEvent.info (e : NetworkEvent) : NetworkInfoType := ⟨e.networkHandle, e.type⟩

section Collate

variable {e : NetworkEvent} {back : SystemStatusNetworkInfo} {used : List NetworkInfoType}

theorem collate_mConnected : (e.item.collate back).mConnected = e.connected := by
  unfold SystemStatusNetworkInfo.collate
  dsimp only
  split
  · rfl
  · split
    · rfl
    · rfl

theorem collate_of_connected (hc : e.connected = true) :
    (e.item.collate back).mAllNetworkHandles = connect e.info back.mAllNetworkHandles ∧
      (e.item.collate back).mAllTypes = typeToAllTypes e.type ||| back.mAllTypes := by
  simp [SystemStatusNetworkInfo.collate, NetworkEvent.item, hc, NetworkEvent.info]

theorem collate_of_not_connected (hc : e.connected = false) (ht : e.type ≠ .unknown) :
    (e.item.collate back).mAllNetworkHandles = disconnect e.info back.mAllNetworkHandles ∧
      (e.item.collate back).mAllTypes =
        if (scan e.info back.mAllNetworkHandles ⟨maxNetworkHandles, 0, 0⟩).typeCount = 0 then
          back.mAllTypes &&& ~~~typeToAllTypes e.type
        else typeToAllTypes e.type := by
  have hne : typeToAllTypes e.type ≠ 0#64 := by
    cases htype : e.type with
    | unknown => exact absurd htype ht
    | _ => decide
  simp [SystemStatusNetworkInfo.collate, NetworkEvent.item, hc, hne, NetworkEvent.info, disconnect]
  rfl

/-- The table and the mask of an item, for a list of used slots. -/
structure Shows (s : SystemStatusNetworkInfo) (used : List NetworkInfoType) : Prop where
  table : IsTable used s.mAllNetworkHandles
  mask : ∀ i, s.mAllTypes.getLsbD i = true ↔ ∃ slot ∈ used, slot.networkType.index = i

/-- The used slots after an event. -/
def IsNext (e : NetworkEvent) (used used' : List NetworkInfoType) : Prop :=
  ∀ slot, slot ∈ used' ↔
    if e.connected then slot ∈ used ∨ slot = e.info else slot ∈ used ∧ slot ≠ e.info

/-- The table of an event is right, whatever its mask. -/
theorem exists_isTable_collate (h : IsTable used back.mAllNetworkHandles)
    (ht : e.type ≠ .unknown) (hh : e.networkHandle ≠ networkHandleUnknown)
    (hslot : ∀ slot ∈ used, slot.networkHandle = e.networkHandle → slot = e.info)
    (hroom : e.connected = true → e.info ∉ used → used.length < maxNetworkHandles) :
    ∃ used', IsTable used' (e.item.collate back).mAllNetworkHandles ∧ IsNext e used used' := by
  cases hc : e.connected with
  | true =>
    obtain ⟨used', htable, hmem⟩ := h.connect hh hslot (hroom hc)
    rw [(collate_of_connected hc).1]
    exact ⟨used', htable, fun slot ↦ by rw [hc, if_pos rfl, hmem]⟩
  | false =>
    obtain ⟨-, used', htable, hmem⟩ := h.disconnect e.info
    rw [(collate_of_not_connected hc ht).1]
    exact ⟨used', htable, fun slot ↦ by rw [hc, if_neg Bool.false_ne_true, hmem]⟩

variable {used' : List NetworkInfoType}

/-- The mask of a connected network. -/
theorem mask_of_connected (h : Shows back used)
    (hnext : IsNext e used used') (hc : e.connected = true) (ht : e.type ≠ .unknown) (i : ℕ) :
    (e.item.collate back).mAllTypes.getLsbD i = true ↔
      ∃ slot ∈ used', slot.networkType.index = i := by
  rw [(collate_of_connected hc).2, BitVec.getLsbD_or, Bool.or_eq_true, getLsbD_typeToAllTypes ht,
    h.mask]
  constructor
  · rintro (rfl | ⟨slot, hs, rfl⟩)
    · exact ⟨e.info, (hnext _).mpr (by simp [hc]), rfl⟩
    · exact ⟨slot, (hnext _).mpr (by simp [hc, hs]), rfl⟩
  · rintro ⟨slot, hs, rfl⟩
    rw [hnext, hc, if_pos rfl] at hs
    rcases hs with hs | rfl
    · exact Or.inr ⟨slot, hs, rfl⟩
    · exact Or.inl rfl

/-- The mask of a network that goes as the only one of its type. -/
theorem mask_of_last (h : Shows back used)
    (hslot : ∀ slot ∈ used, slot.networkHandle = e.networkHandle → slot = e.info)
    (hnext : IsNext e used used') (hc : e.connected = false) (ht : e.type ≠ .unknown)
    (hlast : ∀ slot ∈ used, ¬SameType e.info slot) (i : ℕ) :
    (e.item.collate back).mAllTypes.getLsbD i = true ↔
      ∃ slot ∈ used', slot.networkType.index = i := by
  have hcount : (scan e.info back.mAllNetworkHandles ⟨maxNetworkHandles, 0, 0⟩).typeCount = 0 := by
    rw [(h.table.disconnect e.info).1, countP_eq_zero]
    simpa using hlast
  have hmem : ∀ slot, slot ∈ used' ↔ slot ∈ used ∧ slot ≠ e.info := by
    intro slot
    rw [hnext, hc, if_neg Bool.false_ne_true]
  have hbit := getLsbD_typeToAllTypes ht i
  rw [(collate_of_not_connected hc ht).2, if_pos hcount, BitVec.getLsbD_and, Bool.and_eq_true,
    h.mask, BitVec.getLsbD_not]
  constructor
  · rintro ⟨⟨slot, hs, rfl⟩, hnot⟩
    refine ⟨slot, (hmem slot).mpr ⟨hs, ?_⟩, rfl⟩
    rintro rfl
    simp [hbit.mpr rfl] at hnot
  · rintro ⟨slot, hs, rfl⟩
    obtain ⟨hs, hne⟩ := (hmem slot).mp hs
    have hindex : e.type ≠ slot.networkType := by
      intro heq
      exact hlast slot hs ⟨heq, fun hhandle ↦ hne (hslot slot hs hhandle.symm)⟩
    have hlt : slot.networkType.index < 64 := by cases slot.networkType <;> decide
    refine ⟨⟨slot, hs, rfl⟩, ?_⟩
    have hfalse : (typeToAllTypes e.type).getLsbD slot.networkType.index = false := by
      rw [← Bool.not_eq_true, hbit]
      exact fun heq ↦ hindex (NetworkType.index_injective heq)
    rw [hfalse]
    simp [hlt]

/-- The mask of a network that goes while another one of its type stays has this type only. -/
theorem mask_of_not_last (h : Shows back used) (hc : e.connected = false) (ht : e.type ≠ .unknown)
    (hother : ∃ slot ∈ used, SameType e.info slot) (i : ℕ) :
    (e.item.collate back).mAllTypes.getLsbD i = true ↔ e.type.index = i := by
  have hcount : (scan e.info back.mAllNetworkHandles ⟨maxNetworkHandles, 0, 0⟩).typeCount ≠ 0 := by
    rw [(h.table.disconnect e.info).1, Ne, countP_eq_zero]
    push Not
    simpa using hother
  rw [(collate_of_not_connected hc ht).2, if_neg hcount, getLsbD_typeToAllTypes ht]

end Collate

/-! ## The newest item -/

/-- The newest item after one more item. -/
def newestAfter (newest : Option SystemStatusNetworkInfo) (s : SystemStatusNetworkInfo) :
    SystemStatusNetworkInfo :=
  match newest with
  | none => s
  | some back => if back.equals (s.collate back) then back else s.collate back

theorem getLast?_setIteminReport (r : List SystemStatusNetworkInfo) (s : SystemStatusNetworkInfo) :
    (setIteminReport r s).getLast? = some (newestAfter r.getLast? s) := by
  have hpush : ∀ s : SystemStatusNetworkInfo,
      (if (r ++ [s]).length > maxItem then (r ++ [s]).tail else r ++ [s]).getLast? = some s := by
    intro s
    split
    · next hlength =>
      cases r with
      | nil => simp [maxItem] at hlength
      | cons x r => simp
    · simp
  unfold setIteminReport
  cases hlast : r.getLast? with
  | none => exact hpush s
  | some back =>
    simp only [newestAfter]
    split
    · exact hlast
    · exact hpush _

theorem getLast?_report_concat (events : List NetworkEvent) (e : NetworkEvent) :
    (report (events ++ [e])).getLast? = some (newestAfter (report events).getLast? e.item) := by
  rw [report, foldl_append, foldl_cons, foldl_nil, getLast?_setIteminReport]
  rfl

/-- The event finds the networks in a state in which its item becomes right: the first event is a
connect; a network that goes is the only one of its type, or all that stay have its type, or the
event is dropped, since it is about a network that is not listed and changes neither the connection
state nor the APN of the newest item. -/
def Keeps (newest : Option SystemStatusNetworkInfo) (e : NetworkEvent) : Prop :=
  match newest with
  | none => e.connected = true
  | some back =>
    e.connected = true ∨
      (∀ slot ∈ back.mAllNetworkHandles, slot.networkHandle ≠ networkHandleUnknown →
        slot.networkHandle ≠ e.networkHandle → slot.networkType ≠ e.type) ∨
      (∀ slot ∈ back.mAllNetworkHandles, slot.networkHandle ≠ networkHandleUnknown →
        slot.networkHandle ≠ e.networkHandle → slot.networkType = e.type) ∨
      ((∀ slot ∈ back.mAllNetworkHandles, slot.networkHandle ≠ e.networkHandle) ∧
        back.mConnected = false ∧ (e.item.collate back).mApn = back.mApn)

instance (e : NetworkEvent) : ∀ newest, Decidable (Keeps newest e)
  | none => inferInstanceAs (Decidable (_ = _))
  | some _ => inferInstanceAs (Decidable (_ ∨ _))

/-! ## Events and the newest item -/

section Events

variable {typeOf : NetworkHandle → NetworkType} {events : List NetworkEvent} {e : NetworkEvent}
  {used : List NetworkInfoType} {back : SystemStatusNetworkInfo}

theorem Notified.of_concat (h : Notified typeOf (events ++ [e])) : Notified typeOf events where
  type_eq := fun e' he ↦ h.type_eq e' (mem_append_left _ he)
  type_ne := fun e' he ↦ h.type_ne e' (mem_append_left _ he)
  handle_ne := fun e' he ↦ h.handle_ne e' (mem_append_left _ he)
  bounded := fun pre hpre ↦ h.bounded pre (hpre.trans (prefix_append _ _))

/-- A handle is connected by one of the events. -/
theorem exists_of_connected {h : NetworkHandle} {t : NetworkType}
    (hconn : connected events h = some t) :
    ∃ e ∈ events, e.networkHandle = h ∧ e.type = t := by
  induction events using List.reverseRecOn with
  | nil => cases hconn
  | append_singleton events e ih =>
    rw [connected_concat] at hconn
    split at hconn
    · next hh =>
      split at hconn
      · exact ⟨e, by simp, hh, Option.some_inj.mp hconn⟩
      · cases hconn
    · obtain ⟨e', he', hh⟩ := ih hconn
      exact ⟨e', mem_append_left _ he', hh⟩

/-- The used slots are the networks that are connected. -/
def Matches (events : List NetworkEvent) (used : List NetworkInfoType) : Prop :=
  ∀ h t, ⟨h, t⟩ ∈ used ↔ connected events h = some t

/-- A used slot with the handle of an event is the slot of the event. -/
theorem Matches.slot_eq (h : Matches events used) (hn : Notified typeOf (events ++ [e]))
    (slot : NetworkInfoType) (hs : slot ∈ used) (hh : slot.networkHandle = e.networkHandle) :
    slot = e.info := by
  obtain ⟨e', he', hh', ht'⟩ := exists_of_connected ((h _ _).mp hs)
  have htype : slot.networkType = e.type := by
    rw [← ht', hn.of_concat.type_eq e' he', hn.type_eq e (by simp), hh', hh]
  cases slot
  simp only [NetworkEvent.info, NetworkInfoType.mk.injEq]
  exact ⟨hh, htype⟩

variable {used' : List NetworkInfoType} {slot : NetworkInfoType}

/-- The used slots after an event are the networks that are connected then. -/
theorem Matches.isNext (h : Matches events used) (hn : Notified typeOf (events ++ [e])) (hnext : IsNext e used used') :
    Matches (events ++ [e]) used' := by
  intro hdl t
  rw [connected_concat, hnext]
  by_cases hh : e.networkHandle = hdl
  · subst hh
    have hslot : ∀ t, (⟨e.networkHandle, t⟩ : NetworkInfoType) ∈ used → e.type = t :=
      fun t hs ↦ (congrArg NetworkInfoType.networkType (h.slot_eq hn _ hs rfl)).symm
    rw [if_pos rfl]
    cases hc : e.connected with
    | true =>
      simp only [if_true, Option.some_inj, NetworkEvent.info, NetworkInfoType.mk.injEq, true_and]
      refine ⟨?_, fun heq ↦ Or.inr heq.symm⟩
      rintro (hs | rfl)
      · exact hslot t hs
      · rfl
    | false =>
      simp only [Bool.false_eq_true, if_false, reduceCtorEq, iff_false, not_and, not_not]
      intro hs
      rw [NetworkEvent.info, hslot t hs]
  · have hne : (⟨hdl, t⟩ : NetworkInfoType) ≠ e.info := by
      intro heq
      exact hh (congrArg NetworkInfoType.networkHandle heq).symm
    rw [if_neg hh, ← h]
    cases e.connected with
    | true => simp [hne]
    | false => simp [hne]

theorem matches_nil : Matches [] [] := by
  intro h t
  simp [connected]

/-- There is room for a handle that gets connected. -/
theorem Matches.length_lt (h : Matches events used)
    (hnodup : (used.map NetworkInfoType.networkHandle).Nodup) (hn : Notified typeOf (events ++ [e]))
    (hc : e.connected = true) (hnot : e.info ∉ used) : used.length < maxNetworkHandles := by
  have hhandle : e.networkHandle ∉ used.map NetworkInfoType.networkHandle :=
    IsTable.handle_not_mem (h.slot_eq hn) hnot
  have hsub : (((e.networkHandle :: used.map NetworkInfoType.networkHandle).toFinset :
      Finset NetworkHandle) : Set NetworkHandle) ⊆
      {h | (connected (events ++ [e]) h).isSome} := by
    intro hdl hmem
    rw [Finset.mem_coe, mem_toFinset, mem_cons] at hmem
    change (connected (events ++ [e]) hdl).isSome = true
    rw [connected_concat, hc]
    split
    · rfl
    · next hne =>
      obtain ⟨slot, hs, rfl⟩ := mem_map.mp (hmem.resolve_left (Ne.symm hne))
      rw [(h _ _).mp hs]
      rfl
  have hle := (Set.encard_le_encard hsub).trans (hn.bounded _ (prefix_refl _))
  rw [Set.encard_coe_eq_coe_finsetCard,
    toFinset_card_of_nodup (nodup_cons.mpr ⟨hhandle, hnodup⟩), length_cons,
    length_map] at hle
  exact Nat.cast_le.mp hle

/-- The newest item shows the networks that are connected. -/
def Good (events : List NetworkEvent) : Prop :=
  ∃ newest used, (report events).getLast? = some newest ∧ Shows newest used ∧ Matches events used

theorem Good.newestLists (h : Good events) : NewestLists events := by
  obtain ⟨newest, used, hlast, hshows, hmatches⟩ := h
  obtain ⟨k, hslots⟩ := hshows.table.eq
  refine ⟨newest, hlast, ⟨used, ?_, ?_, hshows.table.nodup, hmatches⟩, fun i ↦ ?_⟩
  · rw [hslots]
    exact prefix_append _ _
  · rw [hslots, drop_left]
    intro slot hs
    rw [eq_of_mem_replicate hs, NetworkInfoType.networkHandle_free]
  · rw [hshows.mask]
    constructor
    · rintro ⟨slot, hs, rfl⟩
      exact ⟨_, _, (hmatches _ _).mp hs, rfl⟩
    · rintro ⟨h, t, hconn, rfl⟩
      exact ⟨⟨h, t⟩, (hmatches h t).mpr hconn, rfl⟩

/-- A used slot is a slot, and has a handle. -/
theorem Shows.mem_slots (h : Shows back used) (hs : slot ∈ used) :
    slot ∈ back.mAllNetworkHandles := by
  obtain ⟨k, hslots⟩ := h.table.eq
  rw [hslots]
  exact mem_append_left _ hs

theorem Shows.mem_used (h : Shows back used)
    (hs : slot ∈ back.mAllNetworkHandles) (hne : slot.networkHandle ≠ networkHandleUnknown) :
    slot ∈ used := by
  obtain ⟨k, hslots⟩ := h.table.eq
  rw [hslots] at hs
  rcases mem_append.mp hs with hs | hs
  · exact hs
  · rw [eq_of_mem_replicate hs] at hne
    exact absurd rfl hne

/-- The mask of a network that goes is right if it was the only one of its type, or if all that
stay have its type. -/
theorem mask_of_not_connected (h : Shows back used)
    (hslot : ∀ slot ∈ used, slot.networkHandle = e.networkHandle → slot = e.info)
    (hnext : IsNext e used used') (hc : e.connected = false) (ht : e.type ≠ .unknown)
    (hkeeps : (∀ slot ∈ used, ¬SameType e.info slot) ∨
      ∀ slot ∈ used, slot.networkHandle ≠ e.networkHandle → slot.networkType = e.type) (i : ℕ) :
    (e.item.collate back).mAllTypes.getLsbD i = true ↔
      ∃ slot ∈ used', slot.networkType.index = i := by
  by_cases hlast : ∀ slot ∈ used, ¬SameType e.info slot
  · exact mask_of_last h hslot hnext hc ht hlast i
  · have hall := hkeeps.resolve_left hlast
    push Not at hlast
    have hmem : ∀ slot, slot ∈ used' ↔ slot ∈ used ∧ slot ≠ e.info := by
      intro slot
      rw [hnext, hc, if_neg Bool.false_ne_true]
    rw [mask_of_not_last h hc ht hlast]
    constructor
    · rintro rfl
      obtain ⟨slot, hs, hsame⟩ := hlast
      refine ⟨slot, (hmem slot).mpr ⟨hs, ?_⟩, congrArg _ hsame.1.symm⟩
      rintro rfl
      exact hsame.2 rfl
    · rintro ⟨slot, hs, rfl⟩
      obtain ⟨hs, hne⟩ := (hmem slot).mp hs
      rw [hall slot hs fun hh ↦ hne (hslot slot hs hh)]

/-- An event that is dropped. -/
theorem equals_of_not_listed (h : Shows back used) (hc : e.connected = false)
    (ht : e.type ≠ .unknown)
    (hnot : ∀ slot ∈ back.mAllNetworkHandles, slot.networkHandle ≠ e.networkHandle)
    (hback : back.mConnected = false) (hapn : (e.item.collate back).mApn = back.mApn) :
    back.equals (e.item.collate back) = true := by
  have hinfo : e.info ∉ used := fun hmem ↦ hnot e.info (h.mem_slots hmem) rfl
  obtain ⟨k, heq⟩ := h.table.eq
  have hslots := (disconnect_of_not_mem h.table.known
    (fun _ ↦ networkHandle_of_mem_replicate (k := k)) hinfo).2
  rw [← heq, ← (collate_of_not_connected hc ht).1] at hslots
  simp [SystemStatusNetworkInfo.equals, hslots, collate_mConnected, hc, hback, hapn]

/-- The first event. -/
theorem good_singleton (hn : Notified typeOf [e]) (hc : e.connected = true) : Good [e] := by
  have ht := hn.type_ne e (by simp)
  have hh := hn.handle_ne e (by simp)
  refine ⟨e.item, [e.info], getLast?_report_concat [] e, ⟨⟨⟨9, rfl⟩, ?_, ?_, ?_⟩, fun i ↦ ?_⟩, ?_⟩
  · simp [NetworkEvent.item, maxNetworkHandles]
  · simp
  · simpa [NetworkEvent.info] using hh
  · simpa [NetworkEvent.info, NetworkEvent.item] using getLsbD_typeToAllTypes ht i
  · exact matches_nil.isNext hn (fun slot ↦ by simp [hc])

/-- One event keeps the newest item right under the condition. -/
theorem Good.concat (h : Good events) (hn : Notified typeOf (events ++ [e]))
    (hk : Keeps (report events).getLast? e) : Good (events ++ [e]) := by
  obtain ⟨back, used, hlast, hshows, hmatches⟩ := h
  have ht := hn.type_ne e (by simp)
  have hslot := hmatches.slot_eq hn
  obtain ⟨used', htable, hnext⟩ := exists_isTable_collate hshows.table ht
    (hn.handle_ne e (by simp)) hslot (hmatches.length_lt hshows.table.nodup hn)
  have hmatches' := hmatches.isNext hn hnext
  have hreport := getLast?_report_concat events e
  rw [hlast, newestAfter] at hreport
  by_cases heq : back.equals (e.item.collate back) = true
  · -- the item is dropped, so that its table is the one of the newest item
    rw [if_pos heq] at hreport
    have hsame : back.mAllNetworkHandles = (e.item.collate back).mAllNetworkHandles := by
      rw [SystemStatusNetworkInfo.equals, decide_eq_true_eq] at heq
      exact heq.2.1
    rw [← hsame] at htable
    rw [htable.unique hshows.table] at hmatches'
    exact ⟨back, used, hreport, hshows, hmatches'⟩
  · rw [if_neg heq] at hreport
    refine ⟨_, used', hreport, ⟨htable, fun i ↦ ?_⟩, hmatches'⟩
    rw [hlast] at hk
    cases hc : e.connected with
    | true => exact mask_of_connected hshows hnext hc ht i
    | false =>
      rcases hk with hk | hk | hk | ⟨hnot, hback, hapn⟩
      · rw [hc] at hk
        cases hk
      · refine mask_of_not_connected hshows hslot hnext hc ht (Or.inl fun slot hs hsame ↦ ?_) i
        exact hk slot (hshows.mem_slots hs) (hshows.table.known slot hs) (Ne.symm hsame.2)
          hsame.1.symm
      · refine mask_of_not_connected hshows hslot hnext hc ht (Or.inr fun slot hs hne ↦ ?_) i
        exact hk slot (hshows.mem_slots hs) (hshows.table.known slot hs) hne
      · exact absurd (equals_of_not_listed hshows hc ht hnot hback hapn) heq

/-- A first event that is a disconnect is listed. -/
theorem not_newestLists_singleton (hn : Notified typeOf [e]) (hc : e.connected = false) :
    ¬NewestLists [e] := by
  rintro ⟨newest, hlast, ⟨used, hprefix, hfree, -, hmem⟩, -⟩
  have hreport : (report [e]).getLast? = some e.item := getLast?_report_concat [] e
  obtain rfl := Option.some_inj.mp (hreport.symm.trans hlast)
  cases used with
  | nil =>
    have hunknown := hfree e.info (by simp [NetworkEvent.item, NetworkEvent.info])
    exact hn.handle_ne e (by simp) hunknown
  | cons slot used =>
    have hslot : slot = e.info := by
      simpa [NetworkEvent.item, NetworkEvent.info] using (cons_prefix_cons.mp hprefix).1
    have hconn := (hmem e.networkHandle e.type).mp (by simp [hslot, NetworkEvent.info])
    rw [show [e] = [] ++ [e] from rfl, connected_concat, if_pos rfl, hc] at hconn
    cases hconn

/-- An event without the condition makes the newest item wrong. -/
theorem Good.not_newestLists_concat (h : Good events) (hn : Notified typeOf (events ++ [e]))
    (hk : ¬Keeps (report events).getLast? e) : ¬NewestLists (events ++ [e]) := by
  obtain ⟨back, used, hlast, hshows, hmatches⟩ := h
  have ht := hn.type_ne e (by simp)
  have hh := hn.handle_ne e (by simp)
  have hslot := hmatches.slot_eq hn
  rw [hlast] at hk
  simp only [Keeps, not_or] at hk
  obtain ⟨hc, hfirst, hsecond, hdropped⟩ := hk
  rw [Bool.not_eq_true] at hc
  push Not at hfirst hsecond
  obtain ⟨x, hx, hxknown, hxhandle, hxtype⟩ := hfirst
  obtain ⟨y, hy, hyknown, hyhandle, hytype⟩ := hsecond
  have hreport := getLast?_report_concat events e
  rw [hlast, newestAfter] at hreport
  by_cases heq : back.equals (e.item.collate back) = true
  · -- the item would only be dropped if the handle was not listed
    rw [SystemStatusNetworkInfo.equals, decide_eq_true_eq] at heq
    obtain ⟨hconn, hslots, hapn⟩ := heq
    rw [collate_mConnected, hc] at hconn
    obtain ⟨slot, hs, hhandle⟩ : ∃ slot ∈ back.mAllNetworkHandles,
        slot.networkHandle = e.networkHandle := by
      by_contra hnot
      push Not at hnot
      exact hdropped ⟨hnot, hconn.symm, hapn⟩
    have hsused := hshows.mem_used hs (hhandle ▸ hh)
    obtain ⟨used', htable, hnext⟩ := exists_isTable_collate hshows.table ht hh hslot
      (hmatches.length_lt hshows.table.nodup hn)
    rw [← hslots] at htable
    rw [hshows.table.unique htable] at hsused
    have hne := (hnext slot).mp hsused
    rw [hc, if_neg Bool.false_ne_true] at hne
    exact absurd (hslot slot hne.1 hhandle) hne.2
  · rw [if_neg heq] at hreport
    rintro ⟨newest, hnewest, -, hmask⟩
    obtain rfl := Option.some_inj.mp (hreport.symm.trans hnewest)
    have hyused := hshows.mem_used hy hyknown
    have hconn : connected (events ++ [e]) y.networkHandle = some y.networkType := by
      rw [connected_concat, if_neg (Ne.symm hyhandle)]
      exact (hmatches _ _).mp hyused
    have hbit := (hmask y.networkType.index).mpr ⟨_, _, hconn, rfl⟩
    have hother : ∃ slot ∈ used, SameType e.info slot :=
      ⟨x, hshows.mem_used hx hxknown, hxtype.symm, Ne.symm hxhandle⟩
    rw [mask_of_not_last hshows hc ht hother] at hbit
    exact hytype (NetworkType.index_injective hbit).symm

/-- Whether the newest item is right after every event, and whether it is right now. -/
theorem newestLists_and_good (hn : Notified typeOf events) :
    (Always (fun pre e ↦ NewestLists (pre ++ [e])) events ↔
      Always (fun pre e ↦ Keeps (report pre).getLast? e) events) ∧
    (Always (fun pre e ↦ Keeps (report pre).getLast? e) events → events = [] ∨ Good events) := by
  induction events using List.reverseRecOn with
  | nil => exact ⟨iff_of_true (always_nil _) (always_nil _), fun _ ↦ Or.inl rfl⟩
  | append_singleton events e ih =>
    obtain ⟨hiff, hgood⟩ := ih hn.of_concat
    -- under the condition on the events before, the newest item is right if the event keeps it so
    have hkeeps : Always (fun pre e ↦ Keeps (report pre).getLast? e) events →
        Keeps (report events).getLast? e → Good (events ++ [e]) := by
      intro halways hk
      rcases hgood halways with rfl | hg
      · exact good_singleton hn hk
      · exact hg.concat hn hk
    have hbreaks : Always (fun pre e ↦ Keeps (report pre).getLast? e) events →
        ¬Keeps (report events).getLast? e → ¬NewestLists (events ++ [e]) := by
      intro halways hk
      rcases hgood halways with rfl | hg
      · exact not_newestLists_singleton hn (Bool.eq_false_iff.mpr hk)
      · exact hg.not_newestLists_concat hn hk
    rw [always_concat, always_concat, hiff]
    constructor
    · refine and_congr_right fun halways ↦ ⟨fun hlists ↦ ?_, fun hk ↦ ?_⟩
      · by_contra hk
        exact hbreaks halways hk hlists
      · exact (hkeeps halways hk).newestLists
    · rintro ⟨halways, hk⟩
      exact Or.inr (hkeeps halways hk)

/-- After every event the newest item lists the networks that are connected if and only if every
event meets the condition. -/
theorem newestLists_iff (hn : Notified typeOf events) :
    Always (fun pre e ↦ NewestLists (pre ++ [e])) events ↔
      Always (fun pre e ↦ Keeps (report pre).getLast? e) events :=
  (newestLists_and_good hn).1

/-- A few events connect a few handles. -/
theorem encard_connected_le (events : List NetworkEvent) :
    {h | (connected events h).isSome}.encard ≤ (events.length : ℕ) := by
  have hsub : {h | (connected events h).isSome} ⊆
      (((events.map NetworkEvent.networkHandle).toFinset : Finset NetworkHandle) :
        Set NetworkHandle) := by
    intro h hsome
    obtain ⟨t, ht⟩ := Option.isSome_iff_exists.mp hsome
    obtain ⟨e, he, rfl, -⟩ := exists_of_connected ht
    simpa using ⟨e, he, rfl⟩
  refine (Set.encard_le_encard hsub).trans ?_
  rw [Set.encard_coe_eq_coe_finsetCard]
  exact Nat.cast_le.mpr ((toFinset_card_le _).trans_eq (length_map ..))

end Events

/-- Few events of known networks can come. -/
theorem notified_of_length_le {typeOf : NetworkHandle → NetworkType} {events : List NetworkEvent}
    (hlength : events.length ≤ maxNetworkHandles)
    (h : ∀ e ∈ events, e.type = typeOf e.networkHandle ∧ e.type ≠ .unknown ∧
      e.networkHandle ≠ networkHandleUnknown) : Notified typeOf events where
  type_eq := fun e he ↦ (h e he).1
  type_ne := fun e he ↦ (h e he).2.1
  handle_ne := fun e he ↦ (h e he).2.2
  bounded := fun pre hpre ↦
    (encard_connected_le pre).trans (Nat.cast_le.mpr (hpre.length_le.trans hlength))

/-- Wi-Fi and a mobile network come, and Wi-Fi goes. -/
theorem newestLists_iff_wifi :
    Notified (fun h ↦ if h = 1 then .wifi else .mobile)
        [⟨true, .wifi, false, 1, ""⟩, ⟨true, .mobile, false, 2, "apn"⟩,
          ⟨false, .wifi, false, 1, ""⟩] ∧
      Always (fun pre e ↦ NewestLists (pre ++ [e]))
        [⟨true, .wifi, false, 1, ""⟩, ⟨true, .mobile, false, 2, "apn"⟩,
          ⟨false, .wifi, false, 1, ""⟩] := by
  have hn : Notified (fun h ↦ if h = 1 then .wifi else .mobile)
      ([] ++ [⟨true, .wifi, false, 1, ""⟩] ++ [⟨true, .mobile, false, 2, "apn"⟩] ++
        [⟨false, .wifi, false, 1, ""⟩]) := notified_of_length_le (by decide) (by decide)
  refine ⟨hn, (newestLists_iff hn).mpr ?_⟩
  rw [always_concat, always_concat, always_concat]
  exact ⟨⟨⟨always_nil _, by decide +kernel⟩, by decide +kernel⟩, by decide +kernel⟩

/-- One of two mobile networks goes, and the mask loses Wi-Fi. -/
theorem not_newestLists :
    ¬∀ typeOf events, Notified typeOf events →
      Always (fun pre e ↦ NewestLists (pre ++ [e])) events := by
  intro hlists
  have hn : Notified (fun h ↦ if h = 1 then .wifi else .mobile)
      ([⟨true, .wifi, false, 1, ""⟩, ⟨true, .mobile, false, 2, "apn"⟩,
        ⟨true, .mobile, false, 3, "apn"⟩] ++ [⟨false, .mobile, false, 3, "apn"⟩]) :=
    notified_of_length_le (by decide) (by decide)
  obtain ⟨newest, hlast, -, hmask⟩ := (always_concat.mp (hlists _ _ hn)).2
  have hbit := (hmask 1).mpr ⟨1, .wifi, by decide +kernel, rfl⟩
  have hnewest : (report ([⟨true, .wifi, false, 1, ""⟩, ⟨true, .mobile, false, 2, "apn"⟩,
      ⟨true, .mobile, false, 3, "apn"⟩] ++ [⟨false, .mobile, false, 3, "apn"⟩])).getLast?.map
      (·.mAllTypes.getLsbD 1) = some false := by decide +kernel
  rw [hlast, Option.map_some, hbit] at hnewest
  cases hnewest

end MataDevice.SystemStatus
