import Mathlib.Data.List.TakeWhile
import MataDevice.Lib.Fields
import MataDevice.Ntrip.Adapter

/-!
# Taking the GGA sentence out of a text

The server of the corrections is told where the device is by a GGA sentence of the engine, once it
has a fix. The adapter looks for the first `GGA` in what the engine reports. It means to cut the text
there to one sentence, but gives `substr` the position of the next sentence as a length: with text
before the sentence, as much of what comes after it is taken along. And it takes the character before
the seventh comma for the quality of the fix, which it is if there is a seventh comma and the quality
is one character long.
-/

namespace MataDevice.Ntrip

open Fields List

/-! ## Sentences with a fix -/

/-- The seventh field of a sentence, if it has as many -/
def fixQuality (s : List Char) : Option (List Char) := (s.splitOn ',')[6]?

/-- The text is cut into what is before a sentence, the sentence and what comes after it. -/
structure IsSentenceAt (text pre s post : List Char) : Prop where
  text_eq : text = pre ++ s ++ post
  dollar : ∃ body, s = '$' :: body ∧ '$' ∉ body
  ends : post = [] ∨ post.head? = some '$'

/-- A GGA sentence with a fix -/
structure IsFix (s : List Char) : Prop where
  gga : ['G', 'G', 'A', ','] <+: s.drop 3
  quality : ∃ q, fixQuality s = some q ∧ q ≠ [] ∧ q ≠ ['0']

def HasFix (text : List Char) : Prop := ∃ pre s post, IsSentenceAt text pre s post ∧ IsFix s

/-- With this nothing is stored, or this sentence. -/
def storing (d : Dgnss) (isInSession : Bool) (curBootTime : UInt64) :
    Option (List Char) → Dgnss × List Call
  | none => (d, [])
  | some gga => d.takeGGA isInSession curBootTime gga true

/-- What is to be stored for a text -/
def IsRight (text : List Char) : Option (List Char) → Prop
  | none => ¬ HasFix text
  | some gga => ∃ pre post, IsSentenceAt text pre gga post ∧ IsFix gga

/-- The call ends, and what it has stored is right. -/
def IsExact (d : Dgnss) (isInSession : Bool) (curBootTime : UInt64) (text : List Char) : Prop :=
  ∃ stored, d.reportGGAToNtrip isInSession curBootTime text =
    some (storing d isInSession curBootTime stored) ∧ IsRight text stored

/-- The text is cut around the first `GGA` three characters before it and at the next `$`. -/
structure IsFirstGGA (text pre s post : List Char) : Prop where
  text_eq : text = pre ++ s ++ post
  gga : ['G', 'G', 'A'] <+: s.drop 3
  find_eq : find text ['G', 'G', 'A'] 0 = some (pre.length + 3)
  dollar : '$' ∉ s.drop 3
  ends : post = [] ∨ post.head? = some '$'

/-- There is a seventh comma, and the field before it does not end in `0`. -/
structure TakesQuality (s : List Char) : Prop where
  commas : 7 ≤ s.count ','
  last : (fixQuality s).bind List.getLast? ≠ some '0'

/-! ## Finding -/

section Find

variable {s pattern : List Char} {pos i : ℕ}

theorem find_eq_some_iff : find s pattern pos = some i ↔
    (pos ≤ i ∧ pattern <+: s.drop i) ∧ i < s.length ∧
      ∀ j < i, pos ≤ j → ¬ pattern <+: s.drop j := by
  have hnot : ∀ j, (!(decide (pos ≤ j) && pattern.isPrefixOf (s.drop j))) = true ↔
      (pos ≤ j → ¬ pattern <+: s.drop j) := fun j ↦ by
    rw [← isPrefixOf_iff_prefix]
    cases pattern.isPrefixOf (s.drop j) <;> simp
  simp only [find, find?_range_eq_some, hnot, Bool.and_eq_true, decide_eq_true_eq,
    isPrefixOf_iff_prefix, mem_range]

theorem find_eq_none_iff : find s pattern pos = none ↔
    ∀ i < s.length, pos ≤ i → ¬ pattern <+: s.drop i := by
  simp [find]

variable {c : Char} {a b : List Char}

/-- Finding a character, in a text that is cut there -/
theorem find_char_eq_some (h : s.drop pos = a ++ c :: b) (ha : c ∉ a) :
    find s [c] pos = some (pos + a.length) := by
  have hdrop : ∀ n, s.drop (pos + n) = (a ++ c :: b).drop n := fun n ↦ by rw [← h, drop_drop]
  have hlen : s.length - pos = a.length + (b.length + 1) := by
    simpa using congrArg List.length h
  refine find_eq_some_iff.mpr ⟨⟨Nat.le_add_right _ _, ?_⟩, by omega, fun j hj hpos hprefix ↦ ?_⟩
  · rw [hdrop, drop_left]
    exact ⟨b, rfl⟩
  · obtain ⟨n, rfl⟩ := Nat.exists_eq_add_of_le hpos
    have hn : n < a.length := by omega
    rw [hdrop, drop_append_of_le_length hn.le, drop_eq_getElem_cons hn] at hprefix
    obtain ⟨t, ht⟩ := hprefix
    obtain ⟨hc, -⟩ := List.cons.inj ht
    exact ha (hc ▸ getElem_mem hn)

theorem find_char_eq_none (h : c ∉ s.drop pos) : find s [c] pos = none := by
  refine find_eq_none_iff.mpr fun i _ hpos hprefix ↦ h ?_
  obtain ⟨t, ht⟩ := hprefix
  obtain ⟨n, rfl⟩ := Nat.exists_eq_add_of_le hpos
  refine mem_of_mem_drop (i := n) ?_
  rw [drop_drop, ← ht]
  exact mem_cons_self

end Find

/-! ## Counting the commas -/

section Commas

variable {c : Char} {s a b : List Char} {n pos : ℕ}

theorem drop_past (h : s.drop pos = a ++ c :: b) : s.drop (pos + a.length + 1) = b := by
  rw [Nat.add_assoc, ← drop_drop, h]
  simp

/-- The next comma is found. -/
theorem skipCommas_succ (h : s.drop pos = a ++ ',' :: b) (ha : a.count ',' = 0) :
    skipCommas s (n + 1) (find s [','] pos) =
      skipCommas s n (find s [','] (pos + a.length + 1)) := by
  rw [find_char_eq_some h (count_eq_zero.mp ha), skipCommas]

/-- There is a comma for each that is to be found, and one for the position. -/
theorem skipCommas_eq_some (h : s.drop pos = a ++ ',' :: b) (hcount : a.count ',' = n) :
    skipCommas s n (find s [','] pos) = some (some (pos + a.length)) := by
  induction n generalizing pos a with
  | zero => rw [find_char_eq_some h (count_eq_zero.mp hcount), skipCommas]
  | succ n ih =>
    obtain ⟨u, v, rfl, hu⟩ := exists_append_cons_of_lt_count (c := ',') (s := a) (n := 0) (by omega)
    rw [append_assoc, cons_append] at h
    rw [count_append, hu, count_cons_self] at hcount
    rw [skipCommas_succ h hu, ih (drop_past h) (by omega), length_append, length_cons,
      show pos + u.length + 1 + v.length = pos + (u.length + (v.length + 1)) from by omega]

/-- The position is past the last of the commas. -/
theorem skipCommas_eq_some_none (h : (s.drop pos).count ',' = n) :
    skipCommas s n (find s [','] pos) = some none := by
  induction n generalizing pos with
  | zero => rw [find_char_eq_none (count_eq_zero.mp h), skipCommas]
  | succ n ih =>
    obtain ⟨u, v, hs, hu⟩ :=
      exists_append_cons_of_lt_count (c := ',') (s := s.drop pos) (n := 0) (by omega)
    rw [hs, count_append, hu, count_cons_self] at h
    rw [skipCommas_succ hs hu]
    exact ih (by rw [drop_past hs]; omega)

/-- There are not as many commas. -/
theorem skipCommas_eq_none (h : (s.drop pos).count ',' < n) :
    skipCommas s n (find s [','] pos) = none := by
  induction n generalizing pos with
  | zero => omega
  | succ n ih =>
    by_cases hzero : (s.drop pos).count ',' = 0
    · rw [find_char_eq_none (count_eq_zero.mp hzero), skipCommas]
    · obtain ⟨u, v, hs, hu⟩ :=
        exists_append_cons_of_lt_count (c := ',') (s := s.drop pos) (n := 0) (by omega)
      rw [hs, count_append, hu, count_cons_self] at h
      rw [skipCommas_succ hs hu]
      exact ih (by rw [drop_past hs]; omega)

end Commas

/-! ## What is stored -/

/-- What is stored, of what the text is cut to -/
def storedOf (gga : List Char) : Option (Option (List Char)) :=
  match skipCommas gga 6 (find gga [','] 0) with
  | none => some none
  | some none => none
  | some (some foundPos) =>
    match gga[foundPos - 1]? with
    | none => none
    | some c => some (if c ≠ '0' then some gga else none)

/-- What is stored, where nothing comes back if the call does not end -/
def stored (text : List Char) : Option (Option (List Char)) :=
  match ggaString text with
  | none => some none
  | some gga => storedOf gga

theorem reportGGAToNtrip_eq {d : Dgnss} (h : d.isDgnssNmeaRequired = true) (isInSession : Bool)
    (curBootTime : UInt64) (text : List Char) :
    d.reportGGAToNtrip isInSession curBootTime text =
      (stored text).map (storing d isInSession curBootTime) := by
  rw [Dgnss.reportGGAToNtrip, h, stored]
  cases ggaString text with
  | none => rfl
  | some gga =>
    simp only [Bool.not_true, Bool.false_eq_true, if_false, storedOf]
    cases skipCommas gga 6 (find gga [','] 0) with
    | none => rfl
    | some found =>
      cases found with
      | none => rfl
      | some foundPos =>
        dsimp only
        cases gga[foundPos - 1]? with
        | none => rfl
        | some c => by_cases hc : c = '0' <;> simp [hc, storing]

section Stored

variable {s gga text pre post : List Char}

theorem storedOf_of_lt (h : gga.count ',' < 6) : storedOf gga = some none := by
  rw [storedOf, skipCommas_eq_none (by rwa [drop_zero])]

theorem storedOf_of_eq (h : gga.count ',' = 6) : storedOf gga = none := by
  rw [storedOf, skipCommas_eq_some_none (by rwa [drop_zero])]

example : storedOf "$GPGGA,1,2,N,3,E,1".toList = none := by decide

theorem storedOf_of_le (h : 7 ≤ gga.count ',') :
    storedOf gga =
      some (if (fixQuality gga).bind List.getLast? = some '0' then none else some gga) := by
  obtain ⟨a, b, rfl, hcount⟩ := exists_append_cons_of_lt_count (c := ',') (s := gga) (n := 6) h
  have ha : a ≠ [] := fun ha ↦ by simp [ha] at hcount
  have hpos : 0 < a.length := length_pos_of_ne_nil ha
  have hskip : skipCommas (a ++ ',' :: b) 6 (find (a ++ ',' :: b) [','] 0) =
      some (some (0 + a.length)) := skipCommas_eq_some drop_zero hcount
  have hlast := getLast?_of_splitOn (c := ',') (a := a) (b := b) (by omega)
  rw [hcount] at hlast
  have hget : (a ++ ',' :: b)[0 + a.length - 1]? =
      ((fixQuality (a ++ ',' :: b)).bind List.getLast?).or (some ',') := by
    rw [Nat.zero_add, getElem?_append_left (by omega), ← getLast?_eq_getElem?, hlast]
    rfl
  rw [storedOf, hskip]
  simp only [hget]
  cases (fixQuality (a ++ ',' :: b)).bind List.getLast? with
  | none => simp
  | some c => by_cases hc : c = '0' <;> simp [hc]

theorem storedOf_eq_some_iff (s : List Char) :
    storedOf gga = some (some s) ↔ s = gga ∧ TakesQuality gga := by
  rcases lt_trichotomy (gga.count ',') 6 with hlt | heq | hgt
  · rw [storedOf_of_lt hlt]
    exact ⟨fun h ↦ (nomatch h), fun h ↦ absurd h.2.commas (by omega)⟩
  · rw [storedOf_of_eq heq]
    exact ⟨fun h ↦ (nomatch h), fun h ↦ absurd h.2.commas (by omega)⟩
  · rw [storedOf_of_le hgt]
    by_cases hlast : (fixQuality gga).bind List.getLast? = some '0'
    · rw [if_pos hlast]
      exact ⟨fun h ↦ (nomatch h), fun h ↦ absurd hlast h.2.last⟩
    · rw [if_neg hlast]
      simp only [Option.some.injEq]
      exact ⟨fun h ↦ ⟨h.symm, hgt, hlast⟩, fun h ↦ h.1.symm⟩

/-- Nothing is stored, and the call ends. -/
theorem storedOf_eq_some_none_iff : storedOf gga = some none ↔
    gga.count ',' ≠ 6 ∧ ¬ TakesQuality gga := by
  rcases lt_trichotomy (gga.count ',') 6 with hlt | heq | hgt
  · rw [storedOf_of_lt hlt]
    exact iff_of_true rfl ⟨hlt.ne, fun h ↦ absurd h.commas (by omega)⟩
  · rw [storedOf_of_eq heq]
    exact ⟨fun h ↦ (nomatch h), fun h ↦ absurd heq h.1⟩
  · rw [storedOf_of_le hgt]
    by_cases hlast : (fixQuality gga).bind List.getLast? = some '0'
    · rw [if_pos hlast]
      exact iff_of_true rfl ⟨hgt.ne', fun h ↦ h.last hlast⟩
    · rw [if_neg hlast]
      exact ⟨fun h ↦ (nomatch h), fun h ↦ absurd ⟨hgt, hlast⟩ h.2⟩

/-- What comes after the sentence is taken along, as much as there is before it. -/
theorem IsFirstGGA.ggaString_eq (h : IsFirstGGA text pre s post) :
    ggaString text = some (s ++ post.take pre.length) := by
  obtain ⟨htext, hgga, hfind, hdollar, hends⟩ := h
  have hthree : 3 ≤ s.length := by
    have := hgga.length_le
    simp only [length_cons, length_nil, length_drop] at this
    omega
  have hrest : text.drop (pre.length + 3 - 3) = s ++ post := by
    rw [Nat.add_sub_cancel, htext, append_assoc, drop_left]
  have hdrop : text.drop (pre.length + 3) = s.drop 3 ++ post := by
    rw [htext, append_assoc, ← drop_drop, drop_left,
      drop_append_of_le_length hthree]
  rw [ggaString, hfind]
  dsimp only
  rw [if_pos (Nat.le_add_left 3 _)]
  cases post with
  | nil =>
    rw [find_char_eq_none (by rwa [hdrop, List.append_nil])]
    dsimp only
    rw [hrest, take_nil]
  | cons c post =>
    obtain rfl : c = '$' := by simpa using hends
    rw [find_char_eq_some hdrop hdollar]
    dsimp only
    rw [hrest, length_drop,
      show pre.length + 3 + (s.length - 3) = s.length + pre.length from by omega,
      take_length_add_append]

/-- A first `GGA` with three characters before it -/
theorem exists_isFirstGGA {n : ℕ} (h : find text ['G', 'G', 'A'] 0 = some (n + 3)) :
    ∃ pre s post, IsFirstGGA text pre s post := by
  obtain ⟨⟨-, t, ht⟩, hlt, -⟩ := find_eq_some_iff.mp h
  have hhead : ((text.drop n).take 3).length = 3 := by
    rw [length_take, length_drop]
    omega
  have hdrop : ((text.drop n).take 3 ++ (text.drop (n + 3)).takeWhile (· ≠ '$')).drop 3 =
      (text.drop (n + 3)).takeWhile (· ≠ '$') := by
    rw [drop_append, hhead, drop_eq_nil_of_le hhead.le]
    simp
  refine ⟨text.take n, (text.drop n).take 3 ++ (text.drop (n + 3)).takeWhile (· ≠ '$'),
    (text.drop (n + 3)).dropWhile (· ≠ '$'), ?_, ?_, ?_, ?_, ?_⟩
  · rw [append_assoc, append_assoc, takeWhile_append_dropWhile, ← drop_drop,
      take_append_drop, take_append_drop]
  · rw [hdrop, ← ht]
    exact ⟨t.takeWhile (· ≠ '$'), by simp⟩
  · rw [length_take, min_eq_left (by omega), h]
  · rw [hdrop]
    exact fun hmem ↦ by simpa using mem_takeWhile_imp hmem
  · cases hrest : (text.drop (n + 3)).dropWhile (· ≠ '$') with
    | nil => exact .inl rfl
    | cons c rest =>
      have hc := head?_dropWhile_not (fun x ↦ decide (x ≠ '$')) (text.drop (n + 3))
      rw [hrest] at hc
      exact .inr (by simpa using hc)

/-- No `GGA` is found, or one that has not got three characters before it. -/
theorem stored_eq_some_none (h : ∀ pre s post, ¬ IsFirstGGA text pre s post) :
    stored text = some none := by
  rw [stored, ggaString]
  cases hfind : find text ['G', 'G', 'A'] 0 with
  | none => rfl
  | some i =>
    have hi : ¬ 3 ≤ i := fun hi ↦ by
      obtain ⟨n, rfl⟩ := Nat.exists_eq_add_of_le' hi
      obtain ⟨pre, s, post, hfirst⟩ := exists_isFirstGGA hfind
      exact h pre s post hfirst
    dsimp only
    rw [if_neg hi]

theorem IsFirstGGA.stored_eq (h : IsFirstGGA text pre s post) :
    stored text = storedOf (s ++ post.take pre.length) := by
  rw [stored, h.ggaString_eq]

/-- A part without a further `$` has not taken anything along. -/
theorem IsFirstGGA.isSentenceAt (h : IsFirstGGA text pre s post) {body : List Char}
    (hbody : s ++ post.take pre.length = '$' :: body) (hdollar : '$' ∉ body) :
    IsSentenceAt text pre s post ∧ (pre = [] ∨ post = []) := by
  cases s with
  | nil => simpa using h.gga.length_le
  | cons x s =>
    obtain ⟨rfl, hs⟩ := List.cons.inj hbody
    have hpart : '$' ∉ post.take pre.length := fun hmem ↦
      hdollar (hs ▸ mem_append_right s hmem)
    refine ⟨⟨h.text_eq, ⟨s, rfl, fun hmem ↦ hdollar (hs ▸ mem_append_left _ hmem)⟩, h.ends⟩, ?_⟩
    rcases h.ends with hpost | hpost
    · exact .inr hpost
    · refine .inl (eq_nil_of_length_eq_zero ?_)
      cases post with
      | nil => simp at hpost
      | cons c post =>
        obtain rfl : c = '$' := by simpa using hpost
        by_contra hne
        obtain ⟨n, hn⟩ := Nat.exists_eq_succ_of_ne_zero hne
        rw [hn, take_succ_cons] at hpart
        exact hpart mem_cons_self

end Stored

/-! ## When the right text is stored -/

/-- NTRIP is enabled and waits for a position. -/
def waiting : Dgnss := ⟨⟨⟨true, [], [], [], [], 0, false⟩, []⟩, true, ⟨true, false, false⟩, 0⟩

theorem storing_waiting_injective : Function.Injective (storing waiting false 0) := by
  intro o o' h
  cases o with
  | none =>
    cases o' with
    | none => rfl
    | some gga => exact absurd (congrArg (·.1.mDgnssState.noNmeaPending) h) Bool.false_ne_true
  | some gga =>
    cases o' with
    | none => exact absurd (congrArg (·.1.mDgnssState.noNmeaPending) h.symm) Bool.false_ne_true
    | some gga' => exact congrArg some (congrArg (·.1.mStartDgnssNtripParams.nmea) h)

theorem isExact_iff {text : List Char} :
    (∀ d isInSession curBootTime, d.isDgnssNmeaRequired = true →
      IsExact d isInSession curBootTime text) ↔
    ∃ o, stored text = some o ∧ IsRight text o := by
  constructor
  · intro h
    obtain ⟨o, ho, hright⟩ := h waiting false 0 rfl
    rw [reportGGAToNtrip_eq rfl, Option.map_eq_some_iff] at ho
    obtain ⟨o', ho', heq⟩ := ho
    exact ⟨o, storing_waiting_injective heq ▸ ho', hright⟩
  · rintro ⟨o, ho, hright⟩ d isInSession curBootTime hd
    exact ⟨o, by rw [reportGGAToNtrip_eq hd, ho, Option.map_some], hright⟩

theorem HasFix.of_isRight {text gga : List Char} (h : IsRight text (some gga)) : HasFix text := by
  obtain ⟨pre, post, hat, hfix⟩ := h
  exact ⟨pre, gga, post, hat, hfix⟩

/-- The stored text is right just if the first `GGA` is that of a sentence with a fix, nothing is
before that sentence or after it, and its quality is read; or if there is no such sentence, what is
cut out has not six commas, and a seventh only after a `0`. -/
theorem reportGGAToNtrip_iff (text : List Char) :
    (∀ d isInSession curBootTime, d.isDgnssNmeaRequired = true →
      IsExact d isInSession curBootTime text) ↔
    (HasFix text → ∃ pre s post, IsFirstGGA text pre s post ∧ IsSentenceAt text pre s post ∧
      IsFix s ∧ (pre = [] ∨ post = []) ∧ TakesQuality s) ∧
    (¬ HasFix text → ∀ pre s post, IsFirstGGA text pre s post →
      (s ++ post.take pre.length).count ',' ≠ 6 ∧ ¬ TakesQuality (s ++ post.take pre.length)) := by
  rw [isExact_iff]
  constructor
  · rintro ⟨o, ho, hright⟩
    constructor
    · intro hfix
      cases o with
      | none => exact absurd hfix hright
      | some gga =>
        obtain ⟨pre, s, post, hfirst⟩ : ∃ pre s post, IsFirstGGA text pre s post := by
          by_contra hno
          push Not at hno
          rw [stored_eq_some_none hno] at ho
          exact nomatch ho
        rw [hfirst.stored_eq, storedOf_eq_some_iff] at ho
        obtain ⟨rfl, htakes⟩ := ho
        obtain ⟨_, _, hat, hisFix⟩ := hright
        obtain ⟨body, hbody, hdollar⟩ := hat.dollar
        obtain ⟨hsentence, hor⟩ := hfirst.isSentenceAt hbody hdollar
        have hs : s ++ post.take pre.length = s := by
          rcases hor with rfl | rfl <;> simp
        rw [hs] at hisFix htakes
        exact ⟨pre, s, post, hfirst, hsentence, hisFix, hor, htakes⟩
    · intro hno pre s post hfirst
      cases o with
      | none => rwa [hfirst.stored_eq, storedOf_eq_some_none_iff] at ho
      | some gga => exact absurd (HasFix.of_isRight hright) hno
  · rintro ⟨hsome, hnone⟩
    by_cases hfix : HasFix text
    · obtain ⟨pre, s, post, hfirst, hsentence, hisFix, hor, htakes⟩ := hsome hfix
      have hs : s ++ post.take pre.length = s := by
        rcases hor with rfl | rfl <;> simp
      refine ⟨some s, ?_, pre, post, hsentence, hisFix⟩
      rw [hfirst.stored_eq, hs]
      exact (storedOf_eq_some_iff s).mpr ⟨rfl, htakes⟩
    · refine ⟨none, ?_, hfix⟩
      by_cases hfirst : ∃ pre s post, IsFirstGGA text pre s post
      · obtain ⟨pre, s, post, hfirst⟩ := hfirst
        rw [hfirst.stored_eq]
        exact storedOf_eq_some_none_iff.mpr (hnone hfix pre s post hfirst)
      · push Not at hfirst
        exact stored_eq_some_none hfirst

/-- Between two other sentences, as much of the next one is stored as there is before it. -/
theorem not_reportGGAToNtrip_between :
    ¬ ∀ d isInSession curBootTime text, d.isDgnssNmeaRequired = true →
      IsExact d isInSession curBootTime text := by
  intro h
  obtain ⟨o, ho, hright⟩ := isExact_iff.mp fun d isInSession curBootTime ↦
    h d isInSession curBootTime "$GPVTG*52$GPGGA,1,2,N,3,E,1,8*00$GPZDA*48".toList
  have hstored : stored "$GPVTG*52$GPGGA,1,2,N,3,E,1,8*00$GPZDA*48".toList =
      some (some "$GPGGA,1,2,N,3,E,1,8*00$GPZDA*48".toList) := by decide
  rw [hstored] at ho
  obtain rfl := Option.some.inj ho
  obtain ⟨pre, post, hat, -⟩ := hright
  obtain ⟨body, hbody, hdollar⟩ := hat.dollar
  obtain rfl := (List.cons.inj hbody).2
  exact hdollar (by decide)

end MataDevice.Ntrip
