import MataDevice.SystemStatus.Reports

/-!
# The history of the system status

After each notification, the list of each kind should have at most `maxItem` reports, of items of
this kind only, no two in a row that `equals` does not tell apart, the last of them being that of
the item notified last, collated; and the call should return whether the list has got a new report.

Three things can go wrong. The scans of Bluetooth devices go into each other's lists. The reports of
the radio interface lose the data of the item when they are put into the list. And where `equals`
ignores a field, an item is dropped that differs from the last report in this field.
-/

namespace MataDevice.SystemStatus

open List hiding Vector

variable (setPeerData : ℕ → Option ℕ)

/-- The lists after some notifications. -/
def notified (ns : List Notification) : SystemStatusReports :=
  ns.foldl (fun mCache n ↦ (eventDataItemNotify setPeerData mCache n).1) fun _ ↦ []

theorem notified_concat (ns : List Notification) (n : Notification) :
    notified setPeerData (ns ++ [n])
      = (eventDataItemNotify setPeerData (notified setPeerData ns) n).1 := by
  rw [notified, foldl_append]
  rfl

/-! ## The law -/

/-- The item collated with the newest report, if there is one. -/
def Kind.collated (k : Kind) (data : k.Data) (report : List (SystemStatusItem k.Data)) : k.Data :=
  match report.getLast? with
  | none => data
  | some back => k.collate data back.data

/-- A list of reports as it should be. -/
structure Kind.Kept (k : Kind) (report : List (SystemStatusItem k.Data)) : Prop where
  length_le : report.length ≤ maxItem
  own : ∀ s ∈ report, s.mId = k
  changing : (report.map SystemStatusItem.data).IsChain fun s s' ↦ k.equals s s' = false

/-- The list has got a new report at its end, and may have lost one at its front. -/
def Gained {α : Type} (report report' : List (SystemStatusItem α)) : Prop :=
  ∃ s, report' = if (report ++ [s]).length > maxItem then (report ++ [s]).tail else report ++ [s]

/-- What should be true after the notifications. -/
structure Law (ns : List Notification) : Prop where
  kept : ∀ k : Kind, k.Kept (notified setPeerData ns k)
  newest : ∀ (k : Kind) pre data now post, ns = pre ++ ⟨.recorded k data, now⟩ :: post →
    (∀ n ∈ post, ∀ data', n.dataitem ≠ .recorded k data') →
    ∃ back, (notified setPeerData ns k).getLast? = some back ∧
      back.data = k.collated data (notified setPeerData pre k)
  returned : ∀ (k : Kind) pre data now, ns = pre ++ [⟨.recorded k data, now⟩] →
    ((eventDataItemNotify setPeerData (notified setPeerData pre) ⟨.recorded k data, now⟩).2 = true ↔
      Gained (notified setPeerData pre k) (notified setPeerData ns k))
  not_returned : ∀ pre now, ns = pre ++ [⟨.other, now⟩] →
    (eventDataItemNotify setPeerData (notified setPeerData pre) ⟨.other, now⟩).2 = false

/-! ## Fields that are compared -/

namespace Kind

/-- The fields that `equals` ignores are the same. -/
def SameIgnored : (k : Kind) → k.Data → k.Data → Prop
  | wifiSupplicantStatus, s, peer => s.mApMacAddress = peer.mApMacAddress
  | btleScan, s, peer | btScan, s, peer =>
    s.mValidSrnData = peer.mValidSrnData ∧ s.mErrorCause = peer.mErrorCause
  | networkInfo, s, peer =>
    s.mAllTypes = peer.mAllTypes ∧ s.mType = peer.mType ∧ s.mTypeName = peer.mTypeName ∧
      s.mSubTypeName = peer.mSubTypeName ∧ s.mAvailable = peer.mAvailable ∧
      s.mRoaming = peer.mRoaming ∧ s.mNetworkHandle = peer.mNetworkHandle
  | _, _, _ => True

theorem equals_self (k : Kind) (s : k.Data) : k.equals s s = true := by
  cases k <;> simp [equals, SystemStatusNetworkInfo.equals]

/-- Items that `equals` does not tell apart differ in the ignored fields, if at all. -/
theorem eq_iff_of_equals {k : Kind} {s peer : k.Data} (h : k.equals s peer = true) :
    s = peer ↔ k.SameIgnored s peer := by
  cases k with
  | networkInfo =>
    obtain ⟨s, typeName, subTypeName⟩ := s
    obtain ⟨peer, typeName', subTypeName'⟩ := peer
    obtain ⟨hconnected, hslots, hapn⟩ := of_decide_eq_true h
    obtain ⟨⟩ := s
    obtain ⟨⟩ := peer
    simp only at hconnected hslots hapn
    subst hconnected hslots hapn
    simp [SameIgnored]
    tauto
  | _ =>
    obtain ⟨⟩ := s
    obtain ⟨⟩ := peer
    simp only [equals, Bool.and_eq_true, beq_iff_eq] at h
    simp [SameIgnored, h]

variable {k : Kind} {data : k.Data} {report : List (SystemStatusItem k.Data)}
  {s : SystemStatusItem k.Data}

theorem copied_copied (s : k.Data) : k.copied (k.copied s) = k.copied s := by
  cases k <;> rfl

/-- Collating does not change whether a copy is the same as the item. -/
theorem copied_collated (report : List (SystemStatusItem k.Data)) :
    k.copied (k.collated data report) = k.collated data report ↔ k.copied data = data := by
  rw [collated]
  cases report.getLast? with
  | none => rfl
  | some back => cases k <;> simp [collate, copied]

/-- An item that is copied into the list as it is, is copied into its report as it is. -/
theorem construct_of_copied (h : k.copied data = data) : k.construct setPeerData data = data := by
  cases k with
  | rilServiceInfo | rilCellInfo =>
    rw [← h]
    rfl
  | _ => rfl

/-! ## What a notification does to its list -/

/-- The report comes after the ones that are kept. -/
theorem push_eq (report : List (SystemStatusItem k.Data)) (s : SystemStatusItem k.Data) :
    ∃ kept, kept <:+ report ∧ k.push report s = kept ++ [{ s with data := k.copied s.data }] ∧
      (report.length ≤ maxItem → kept.length < maxItem) := by
  rw [push]
  split
  · next hlong =>
    cases report with
    | nil => simp [maxItem] at hlong
    | cons first report =>
      refine ⟨report, suffix_cons first report, rfl, fun hle ↦ ?_⟩
      rw [length_cons] at hle
      omega
  · next hshort =>
    refine ⟨report, suffix_refl report, rfl, fun _ ↦ ?_⟩
    rw [length_append, length_singleton] at hshort
    omega

theorem gained_push (report : List (SystemStatusItem k.Data)) (s : SystemStatusItem k.Data) :
    Gained report (k.push report s) := ⟨_, rfl⟩

/-- A report is dropped, or put into the list collated. -/
theorem setIteminReport_cases (report : List (SystemStatusItem k.Data))
    (s : SystemStatusItem k.Data) :
    (∃ init back, report = init ++ [back] ∧
        k.equals back.data (k.collated s.data report) = true ∧
        setIteminReport report s
          = (init ++ [{ back with mUtcReported := s.mUtcReported }], false)) ∨
      (∀ back, report.getLast? = some back →
        k.equals back.data (k.collated s.data report) = false) ∧
      setIteminReport report s
        = (push report { s with data := k.collated s.data report }, true) := by
  rw [setIteminReport, collated]
  cases hlast : report.getLast? with
  | none => exact .inr ⟨by simp, rfl⟩
  | some back =>
    obtain ⟨init, rfl⟩ := getLast?_eq_some_iff.mp hlast
    dsimp only
    split
    · next hequals => exact .inl ⟨init, back, rfl, hequals, by rw [dropLast_concat]⟩
    · next hequals =>
      refine .inr ⟨fun back' h ↦ ?_, rfl⟩
      rw [← Option.some_inj.mp h]
      exact Bool.eq_false_of_not_eq_true hequals

namespace Kept

theorem nil : k.Kept [] where
  length_le := Nat.zero_le maxItem
  own := by simp
  changing := .nil

variable {report' : List (SystemStatusItem k.Data)}

/-- The data and the ids are all that matters. -/
theorem congr (h : k.Kept report)
    (hdata : report'.map SystemStatusItem.data = report.map SystemStatusItem.data)
    (hid : report'.map SystemStatusItem.mId = report.map SystemStatusItem.mId) :
    k.Kept report' where
  length_le := by
    have hlength := congrArg List.length hdata
    rw [length_map, length_map] at hlength
    exact hlength ▸ h.length_le
  own := by
    intro s hs
    have hmem : s.mId ∈ report.map SystemStatusItem.mId := hid ▸ mem_map_of_mem hs
    obtain ⟨s', hs', heq⟩ := mem_map.mp hmem
    exact heq ▸ h.own s' hs'
  changing := hdata ▸ h.changing

theorem push (h : k.Kept report) (hid : s.mId = k)
    (hnew : ∀ back, report.getLast? = some back → k.equals back.data (k.copied s.data) = false) :
    k.Kept (k.push report s) := by
  obtain ⟨kept, hsuffix, heq, hlength⟩ := push_eq report s
  rw [heq]
  refine ⟨?_, fun s' hs' ↦ ?_, ?_⟩
  · rw [length_append, length_singleton]
    exact hlength h.length_le
  · rcases mem_append.mp hs' with hs' | hs'
    · exact h.own s' (hsuffix.subset hs')
    · rw [mem_singleton.mp hs']
      exact hid
  · have hchain : ((report ++ [{ s with data := k.copied s.data }]).map
        SystemStatusItem.data).IsChain fun s s' ↦ k.equals s s' = false := by
      rw [map_append, isChain_append]
      refine ⟨h.changing, .singleton _, fun x hx y hy ↦ ?_⟩
      rw [getLast?_map] at hx
      obtain ⟨back, hback, rfl⟩ := Option.map_eq_some_iff.mp hx
      obtain rfl := Option.some_inj.mp hy
      exact hnew back hback
    obtain ⟨gone, rfl⟩ := hsuffix
    rw [append_assoc, map_append, isChain_append] at hchain
    exact hchain.2.1

/-- A list without a new report has not got one. -/
theorem not_gained (h : k.Kept report)
    (hdata : report'.map SystemStatusItem.data = report.map SystemStatusItem.data) :
    ¬Gained report report' := by
  rintro ⟨s, rfl⟩
  have hlength := congrArg List.length hdata
  split at hdata
  · next hlong =>
    have hlong' : maxItem ≤ report.length := by
      rw [length_append, length_singleton] at hlong
      omega
    -- the first two reports would be the same
    match report, h, hdata, hlong' with
    | first :: second :: report, h, hdata, _ =>
      rw [cons_append, cons_append, tail_cons, map_cons, map_cons,
        map_cons] at hdata
      have hsame := (cons_eq_cons.mp hdata).1
      have hdiffer := (isChain_cons_cons.mp h.changing).1
      rw [hsame, equals_self] at hdiffer
      cases hdiffer
    | [_], _, _, hlong' => simp [maxItem] at hlong'
    | [], _, _, hlong' => simp [maxItem] at hlong'
  · next hshort =>
    rw [if_neg hshort] at hlength
    simp at hlength

end Kept

/-- What is in the list has been there before, or is a copy of the report. -/
theorem mem_setIteminReport {s' : SystemStatusItem k.Data} (h : s' ∈ (setIteminReport report s).1) :
    (∃ old ∈ report, s'.mId = old.mId ∧ s'.data = old.data) ∨
      s'.mId = s.mId ∧ k.copied s'.data = s'.data := by
  obtain ⟨init, back, rfl, -, heq⟩ | ⟨-, heq⟩ := setIteminReport_cases report s
  · rw [heq] at h
    rcases mem_append.mp h with h | h
    · exact .inl ⟨s', mem_append_left _ h, rfl, rfl⟩
    · obtain rfl := mem_singleton.mp h
      exact .inl ⟨back, by simp, rfl, rfl⟩
  · rw [heq] at h
    obtain ⟨kept, hsuffix, hpush, -⟩ :=
      push_eq report { s with data := k.collated s.data report }
    rw [hpush] at h
    rcases mem_append.mp h with h | h
    · exact .inl ⟨s', hsuffix.subset h, rfl, rfl⟩
    · obtain rfl := mem_singleton.mp h
      exact .inr ⟨rfl, copied_copied _⟩

end Kind

section Notified

variable {setPeerData} {ns : List Notification} {k : Kind} {data : k.Data} {now : ℕ}
  {mCache : SystemStatusReports}

/-- An item of a kind that has its own list. -/
theorem eventDataItemNotify_own (h : k.reportOf = k) :
    eventDataItemNotify setPeerData mCache ⟨.recorded k data, now⟩
      = (Function.update mCache k
          (Kind.setIteminReport (mCache k) ⟨now, now, k, k.construct setPeerData data⟩).1,
        (Kind.setIteminReport (mCache k) ⟨now, now, k, k.construct setPeerData data⟩).2) := by
  cases k with
  | btleScan | btScan => cases h
  | _ => rfl

/-- Wherever a report comes from, it is in the list for its id, and is a copy. -/
theorem mem_notified {j : Kind} {s : SystemStatusItem j.Data}
    (h : s ∈ notified setPeerData ns j) : s.mId.reportOf = j ∧ j.copied s.data = s.data := by
  induction ns using List.reverseRecOn generalizing j with
  | nil => cases h
  | append_singleton ns n ih =>
    rw [notified_concat] at h
    obtain ⟨dataitem, now⟩ := n
    cases dataitem with
    | other => exact ih h
    | recorded k data =>
      by_cases hj : j = k.reportOf
      · subst hj
        simp only [eventDataItemNotify, Function.update_self] at h
        obtain ⟨old, hold, hid, hdata⟩ | ⟨hid, hcopied⟩ := Kind.mem_setIteminReport h
        · rw [hid, hdata]
          exact ih hold
        · rw [hid]
          exact ⟨rfl, hcopied⟩
      · simp only [eventDataItemNotify, Function.update_of_ne hj] at h
        exact ih h

/-! ## When the law holds -/

/-- An item that a list takes as it should: of a kind with its own list, copied as it is, and told
apart from the newest report if it differs from it. -/
structure Fits (mCache : SystemStatusReports) (k : Kind) (data : k.Data) : Prop where
  own : k.reportOf = k
  copied : k.copied data = data
  same : ∀ back, (mCache k).getLast? = some back →
    k.equals back.data (k.collate data back.data) = true →
    k.SameIgnored back.data (k.collate data back.data)

/-- What becomes of the list of an item that fits. -/
theorem Fits.list (h : Fits mCache k data) (hkept : k.Kept (mCache k)) (now : ℕ) :
    ∃ mCache' ret, eventDataItemNotify setPeerData mCache ⟨.recorded k data, now⟩ = (mCache', ret) ∧
      k.Kept (mCache' k) ∧ (ret = true ↔ Gained (mCache k) (mCache' k)) ∧
      ∃ back, (mCache' k).getLast? = some back ∧ back.data = k.collated data (mCache k) := by
  rw [eventDataItemNotify_own h.own, Kind.construct_of_copied setPeerData h.copied]
  refine ⟨_, _, rfl, ?_⟩
  rw [Function.update_self]
  obtain ⟨init, back, hreport, hequals, heq⟩ | ⟨hnew, heq⟩ :=
    Kind.setIteminReport_cases (mCache k) ⟨now, now, k, data⟩
  · rw [heq]
    have hlast : (mCache k).getLast? = some back := by rw [hreport, getLast?_concat]
    refine ⟨?_, ?_, _, getLast?_concat, ?_⟩
    · refine hkept.congr ?_ ?_
      · rw [hreport, map_append, map_append]
        rfl
      · rw [hreport, map_append, map_append]
        rfl
    · refine iff_of_false (by simp) (hkept.not_gained ?_)
      rw [hreport, map_append, map_append]
      rfl
    · dsimp only at hequals ⊢
      rw [Kind.eq_iff_of_equals hequals, Kind.collated, hlast]
      rw [Kind.collated, hlast] at hequals
      exact h.same back hlast hequals
  · rw [heq]
    have hcopied := (Kind.copied_collated (mCache k)).mpr h.copied
    refine ⟨hkept.push rfl fun back hlast ↦ ?_, ?_, ?_⟩
    · rw [hcopied]
      exact hnew back hlast
    · exact iff_of_true rfl (Kind.gained_push _ _)
    · obtain ⟨kept, -, hpush, -⟩ :=
        Kind.push_eq (mCache k) ⟨now, now, k, k.collated data (mCache k)⟩
      rw [hpush]
      exact ⟨_, getLast?_concat, hcopied⟩

/-- The item of a notification, if it is recorded, fits. -/
def Notification.Fits (mCache : SystemStatusReports) (n : Notification) : Prop :=
  ∀ k data, n.dataitem = .recorded k data → SystemStatus.Fits mCache k data

/-- The other lists are left alone. -/
theorem notified_concat_of_ne {n : Notification} (h : n.Fits (notified setPeerData ns))
    (hne : ∀ data, n.dataitem ≠ .recorded k data) :
    notified setPeerData (ns ++ [n]) k = notified setPeerData ns k := by
  rw [notified_concat]
  obtain ⟨dataitem, now⟩ := n
  cases dataitem with
  | other => rfl
  | recorded k' data =>
    have hk : k ≠ k' := by
      rintro rfl
      exact hne data rfl
    rw [eventDataItemNotify_own (h k' data rfl).own]
    exact Function.update_of_ne hk ..

namespace Law

theorem nil : Law setPeerData [] where
  kept := fun _ ↦ .nil
  newest := by simp
  returned := by simp
  not_returned := by simp

/-- The law is kept by items that fit. -/
theorem concat (h : Law setPeerData ns) {n : Notification}
    (hfits : n.Fits (notified setPeerData ns)) : Law setPeerData (ns ++ [n]) where
  kept := by
    intro k
    by_cases hk : ∃ data, n.dataitem = .recorded k data
    · obtain ⟨data, hdata⟩ := hk
      obtain ⟨dataitem, now⟩ := n
      obtain rfl := hdata
      obtain ⟨mCache, ret, heq, hkept, -⟩ := (hfits k data rfl).list (h.kept k) now
      rw [notified_concat, heq]
      exact hkept
    · rw [notified_concat_of_ne hfits (not_exists.mp hk)]
      exact h.kept k
  newest := by
    intro k pre data now post hns hpost
    rcases eq_nil_or_concat post with rfl | ⟨post, last, rfl⟩
    · obtain ⟨rfl, hn⟩ := append_inj' hns rfl
      obtain rfl := singleton_inj.mp hn
      obtain ⟨mCache, ret, heq, -, -, hlast⟩ := (hfits k data rfl).list (h.kept k) now
      rw [notified_concat, heq]
      exact hlast
    · rw [concat_eq_append] at hns hpost
      rw [← cons_append, ← append_assoc] at hns
      obtain ⟨rfl, hn⟩ := append_inj' hns rfl
      obtain rfl := singleton_inj.mp hn
      rw [notified_concat_of_ne hfits (hpost n (by simp))]
      exact h.newest k pre data now post rfl fun n' hn' ↦ hpost n' (by simp [hn'])
  returned := by
    intro k pre data now hns
    obtain ⟨rfl, hn⟩ := append_inj' hns rfl
    obtain rfl := singleton_inj.mp hn
    obtain ⟨mCache, ret, heq, -, hret, -⟩ := (hfits k data rfl).list (h.kept k) now
    rw [notified_concat, heq]
    exact hret
  not_returned := fun _ _ _ ↦ rfl

/-- An item after which the law holds fits. -/
theorem fits {n : Notification} (h : Law setPeerData (ns ++ [n])) :
    n.Fits (notified setPeerData ns) := by
  intro k data hdata
  obtain ⟨dataitem, now⟩ := n
  obtain rfl := hdata
  obtain ⟨back, hlast, hback⟩ := h.newest k ns data now [] rfl (by simp)
  have hmem := mem_of_getLast? hlast
  obtain ⟨hreportOf, hcopied⟩ := mem_notified hmem
  -- the newest report of the kind is one of this kind, and has what the item has
  have hown : k.reportOf = k := by
    rwa [(h.kept k).own back hmem] at hreportOf
  rw [hback, Kind.copied_collated] at hcopied
  refine ⟨hown, hcopied, fun old hold hequals ↦ ?_⟩
  rw [notified_concat, eventDataItemNotify_own hown,
    Kind.construct_of_copied setPeerData hcopied] at hlast
  dsimp only at hlast
  rw [Function.update_self] at hlast
  obtain ⟨init, old', hreport, -, heq⟩ | ⟨hnew, -⟩ :=
    Kind.setIteminReport_cases (notified setPeerData ns k) ⟨now, now, k, data⟩
  · -- the item is dropped, so that the newest report is the old one
    have hlast' : (notified setPeerData ns k).getLast? = some old' := by
      rw [hreport, getLast?_concat]
    obtain rfl := Option.some_inj.mp (hold.symm.trans hlast')
    rw [heq, getLast?_concat] at hlast
    obtain rfl := Option.some_inj.mp hlast
    rw [Kind.collated, hold] at hback
    exact (Kind.eq_iff_of_equals hequals).mp hback
  · have hdiffer := hnew old hold
    rw [Kind.collated, hold] at hdiffer
    exact absurd hequals (Bool.eq_false_iff.mp hdiffer)

end Law

end Notified

/-- **The history of the system status.** After every notification, the list of each kind is as it
should be and the call has returned what it should, if and only if every item is of a kind with its
own list, has no data that a copy of a report would lose, and agrees with the newest report in the
fields that `equals` ignores if `equals` does not tell the two apart. -/
theorem law_iff (ns : List Notification) :
    (∀ pre, pre <+: ns → Law setPeerData pre) ↔
      ∀ pre n, pre ++ [n] <+: ns → n.Fits (notified setPeerData pre) := by
  constructor
  · intro h pre n hpre
    exact (h _ hpre).fits
  · intro h
    induction ns using List.reverseRecOn with
    | nil =>
      intro pre hpre
      rw [prefix_nil.mp hpre]
      exact .nil
    | append_singleton ns n ih =>
      intro pre hpre
      have hlaw := ih fun pre' n' hpre' ↦ h pre' n' (hpre'.trans (prefix_append ns [n]))
      rcases prefix_concat_iff.mp hpre with rfl | hpre
      · exact (hlaw ns (prefix_refl ns)).concat (h ns n (prefix_refl _))
      · exact hlaw pre hpre

/-- An item of each of the kinds that do not fit: a scan that is put into the list of the other
scans, data of the radio interface that is lost, and an access point with another address that is
dropped. -/
theorem not_law :
    ¬Law some [⟨.recorded .btleScan ⟨true, -60, #v[1, 2, 3, 4, 5, 6], 7, 8, 9, 0⟩, 1⟩] ∧
    ¬Law some [⟨.recorded .rilCellInfo ⟨some 1⟩, 1⟩] ∧
    ¬Law some ([⟨.recorded .wifiSupplicantStatus
        ⟨.completed, true, #v[1, 2, 3, 4, 5, 6], true, "home"⟩, 1⟩] ++
      [⟨.recorded .wifiSupplicantStatus
        ⟨.completed, true, #v[1, 2, 3, 4, 5, 7], true, "home"⟩, 2⟩]) := by
  refine ⟨fun h ↦ ?_, fun h ↦ ?_, fun h ↦ ?_⟩
  · have hfits : Notification.Fits (notified some []) _ := Law.fits h
    cases (hfits _ _ rfl).own
  · have hfits : Notification.Fits (notified some []) _ := Law.fits h
    cases (hfits _ _ rfl).copied
  · have hsame : (#v[1, 2, 3, 4, 5, 6] : Vector UInt8 6) = #v[1, 2, 3, 4, 5, 7] :=
      (h.fits _ _ rfl).same _ rfl rfl
    revert hsame
    decide

/-! ## The list of networks -/

/-- What a report of a network has in it. -/
def SystemStatusItem.network (s : SystemStatusItem Kind.networkInfo.Data) :
    SystemStatusNetworkInfo := s.data.toSystemStatusNetworkInfo

/-- The network that a notification is about. -/
def Notification.network (n : Notification) : Option SystemStatusNetworkInfo :=
  match n.dataitem with
  | .recorded .networkInfo data => some data.toSystemStatusNetworkInfo
  | .recorded _ _ | .other => none

theorem map_setIteminReport (report : List (SystemStatusItem Kind.networkInfo.Data))
    (s : SystemStatusItem Kind.networkInfo.Data) :
    (Kind.setIteminReport report s).1.map SystemStatusItem.network
      = setIteminReport (report.map SystemStatusItem.network) s.network := by
  have hpush : ∀ s : SystemStatusItem Kind.networkInfo.Data,
      (Kind.push report s).map SystemStatusItem.network
        = if (report.map SystemStatusItem.network ++ [s.network]).length > maxItem
          then (report.map SystemStatusItem.network ++ [s.network]).tail
          else report.map SystemStatusItem.network ++ [s.network] := by
    intro s
    rw [Kind.push]
    simp only [apply_ite (List.map SystemStatusItem.network), map_tail, map_append,
      length_append, length_map, length_singleton]
    rfl
  rw [Kind.setIteminReport, setIteminReport, getLast?_map]
  cases hlast : report.getLast? with
  | none => exact hpush s
  | some back =>
    obtain ⟨init, rfl⟩ := getLast?_eq_some_iff.mp hlast
    dsimp only [Option.map_some]
    rw [apply_ite Prod.fst, apply_ite (List.map SystemStatusItem.network), hpush]
    rw [dropLast_concat, map_append, map_append]
    rfl

/-- The list of networks is the cache that the table of networks is made from. -/
theorem map_notified_network (ns : List Notification) :
    (notified setPeerData ns .networkInfo).map SystemStatusItem.network
      = (ns.filterMap Notification.network).foldl setIteminReport [] := by
  induction ns using List.reverseRecOn with
  | nil => rfl
  | append_singleton ns n ih =>
    rw [notified_concat, filterMap_append, foldl_append, ← ih]
    obtain ⟨dataitem, now⟩ := n
    cases dataitem with
    | other => rfl
    | recorded k data =>
      cases k with
      | networkInfo => exact map_setIteminReport _ _
      | _ => rfl

end MataDevice.SystemStatus
