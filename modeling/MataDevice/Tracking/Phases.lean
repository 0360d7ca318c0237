import MataDevice.Tracking.Sessions

/-!
# The phases of a tracking session

A session is *here*, in one of the maps, *switching* from distance to time while the engine stops
it, or *away*. Only its start brings a session here; only the stop of it, or the failure of its
start, takes it away. There are three callbacks that can do otherwise, and the argument is about the
runs in which they do not: a failed update that restores its old options, a restart that saves the
new ones, and a failed start in the middle of an update.

The invariant is one about a session, the commands that have been processed for it, those that have
been answered with success, and its requests under way.
-/

namespace MataDevice.Tracking

open List
open Option (some_inj map_eq_some_iff)

/-! ## Phases -/

/-- The callbacks that a command of each kind can leave behind, with what their options are. -/
def Callback.Fits (supported : Bool) : CommandKind → Callback → Prop
  | .start, .startedDistance _ | .start, .startedTime _ => True
  | .update, .startedTime _ | .update, .stoppedTime _ => True
  | .update, .updatedTime _ old => ¬old.IsDistance supported
  | .update, .switchToTime _ o => o.minDistance = 0
  | .update, .restartDistance _ o | .update, .restartedDistance _ o => o.IsDistance supported
  | .stop, .startedTime _ | .stop, .stoppedTime _ | .stop, .stoppedDistance _ => True
  | _, _ => False

def LocMsg.Fits (supported : Bool) (kind : CommandKind) (msg : LocMsg) : Prop :=
  (∀ c ∈ msg.command, c.1 = kind) ∧ ∀ callback ∈ msg.callback, callback.Fits supported kind

/-- How many switches from distance to time a callback stands for. -/
def Callback.switches : Callback → ℕ
  | .switchToTime .. => 1
  | _ => 0

def switchesOf (flights : List (Owned Callback)) : ℕ := (flights.map fun f ↦ f.2.switches).sum

inductive Phase
  | away
  | here
  | switching
  deriving DecidableEq

/-- Neither of the maps has the session. -/
def Held.nothing : Held := ⟨none, none⟩

/-- Exactly one of the maps has the session, the time based one none with a distance to go by. -/
def Held.One (supported : Bool) (x : Held) : Prop :=
  (∃ o : TrackingOptions, ¬o.IsDistance supported ∧ x = ⟨some o, none⟩) ∨
    ∃ o, supported = true ∧ x = ⟨none, some o⟩

/-- A session with this in the maps and so many switches under way is in a phase. -/
def Phase.Of (supported : Bool) (x : Held) (switches : ℕ) : Phase → Prop
  | .away => x = .nothing ∧ switches = 0
  | .here => x.One supported ∧ switches = 0
  | .switching => x = .nothing ∧ switches = 1

/-- The command is as good as carried out: a success is reported, or a request is made of which only
the answer is still to be reported. -/
def Ends (key : LocationSessionKey) (c : Option Callback) (r : Option LocationError) : Prop :=
  r = some .success ∨ ∃ callback, c = some callback ∧ callback ≠ .stoppedDistance key

/-- What a message can do to the phase of its session. -/
structure Moves (strict : Prop) (key : LocationSessionKey) (kind : CommandKind) (msg : LocMsg)
    (c : Option Callback) (r : Option LocationError) (p p' : Phase) : Prop where
  comes : p = .away → p' ≠ .away → kind = .start ∧ msg.callback = none
  goes : p ≠ .away → p' = .away →
    kind = .start ∧ ¬Ends key c r ∨ kind = .stop ∧ (strict → Ends key c r)
  starts : kind = .start → msg.callback = none → Ends key c r → p' ≠ .away
  stops : kind = .stop → Ends key c r → p' = .away
  idle : p = .away → kind ≠ .start → msg.callback = none → c = none ∧ r ≠ some .success

/-- The next message does not bring a session back or put it into both maps, and does not take one
away that is neither stopped nor started in vain. -/
def LocMsg.Keeps (lock : EngineLockState) (kind : CommandKind) (x : Held) (switches : ℕ) :
    LocMsg → Prop
  | .locApiResponse (.updatedTime _ _) err => Refused lock err → x.time ≠ none
  | .locApiResponse (.restartedDistance _ _) err => Accepted lock err → x.dist ≠ none
  | .locApiResponse (.startedTime _) err => kind = .update → Refused lock err → x = .nothing
  | .locApiResponse (.stoppedDistance _) err => err = .success → switches = 0
  | _ => True

instance (lock : EngineLockState) (kind : CommandKind) (x : Held) (switches : ℕ) :
    DecidablePred (LocMsg.Keeps lock kind x switches)
  | .locApiResponse callback err =>
    match callback with
    | .updatedTime _ _ => inferInstanceAs (Decidable (_ → _))
    | .restartedDistance _ _ => inferInstanceAs (Decidable (_ → _))
    | .startedTime _ => inferInstanceAs (Decidable (_ → _))
    | .stoppedDistance _ => inferInstanceAs (Decidable (_ → _))
    | .startedDistance _ | .stoppedTime _ | .switchToTime _ _ | .restartDistance _ _
    | .ignore => .isTrue trivial
  | .startTracking _ _ | .updateTracking _ _ | .stopTracking _ => .isTrue trivial

/-- A stop that fails has not taken the session away, and does not do so now. -/
def LocMsg.KeepsUnstopped (lock : EngineLockState) (kind : CommandKind) : LocMsg → Prop
  | .locApiResponse (.stoppedDistance _) err => Accepted lock err → err = .success
  | .locApiResponse _ err => kind = .stop → err = .success
  | _ => True

instance (lock : EngineLockState) (kind : CommandKind) :
    DecidablePred (LocMsg.KeepsUnstopped lock kind)
  | .locApiResponse callback err =>
    match callback with
    | .stoppedDistance _ => inferInstanceAs (Decidable (_ → _))
    | .updatedTime _ _ | .restartedDistance _ _ | .startedTime _ | .startedDistance _
    | .stoppedTime _ | .switchToTime _ _ | .restartDistance _ _ | .ignore =>
      inferInstanceAs (Decidable (_ → _))
  | .startTracking _ _ | .updateTracking _ _ | .stopTracking _ => .isTrue trivial

namespace Held

variable {supported : Bool} {x : Held} {options : TrackingOptions}

@[simp] theorem erase_nothing : nothing.erase = nothing := rfl

theorem ne_nothing_of_time (h : x.time ≠ none) : x ≠ nothing := by
  rintro rfl
  exact h rfl

theorem ne_nothing_of_dist (h : x.dist ≠ none) : x ≠ nothing := by
  rintro rfl
  exact h rfl

theorem One.ne_nothing (h : x.One supported) : x ≠ nothing := by
  rcases h with ⟨o, -, rfl⟩ | ⟨o, -, rfl⟩ <;> exact fun h ↦ by cases h

theorem One.erase (h : x.One supported) : x.erase = nothing := by
  rcases h with ⟨o, -, rfl⟩ | ⟨o, -, rfl⟩ <;> rfl

theorem one_save_nothing (supported : Bool) (options : TrackingOptions) :
    (nothing.save supported options).One supported := by
  rw [save]
  split
  · next hd => exact Or.inr ⟨options, hd.2, rfl⟩
  · next hd => exact Or.inl ⟨options, hd, rfl⟩

theorem One.save_time (h : x.One supported) (htime : x.time ≠ none)
    (hd : ¬options.IsDistance supported) : (x.save supported options).One supported := by
  rcases h with ⟨o, -, rfl⟩ | ⟨o, -, rfl⟩
  · rw [save, if_neg hd]
    exact Or.inl ⟨options, hd, rfl⟩
  · exact absurd rfl htime

theorem One.save_dist (h : x.One supported) (hdist : x.dist ≠ none)
    (hd : options.IsDistance supported) : (x.save supported options).One supported := by
  rcases h with ⟨o, -, rfl⟩ | ⟨o, -, rfl⟩
  · exact absurd rfl hdist
  · rw [save, if_pos hd]
    exact Or.inr ⟨options, hd.2, rfl⟩

end Held

namespace Phase

variable {supported : Bool} {x : Held} {n : ℕ} {p : Phase}

theorem Of.eq_nothing (h : p.Of supported x n) (hp : p ≠ .here) : x = .nothing := by
  cases p with
  | away => exact h.1
  | here => exact absurd rfl hp
  | switching => exact h.1

theorem Of.eq_here (h : p.Of supported x n) (hx : x ≠ .nothing) : p = .here := by
  by_contra hp
  exact hx (h.eq_nothing hp)

/-- What the maps lose or keep when a session is erased. -/
theorem Of.erase (h : p.Of supported x n) :
    (if p = .here then Phase.away else p).Of supported x.erase n := by
  cases p with
  | away => exact ⟨by rw [h.1]; rfl, h.2⟩
  | here => exact ⟨h.1.erase, h.2⟩
  | switching => exact ⟨by rw [h.1]; rfl, h.2⟩

end Phase

section

variable {supported : Bool} {strict : Prop} {lock : EngineLockState} {key : LocationSessionKey}
  {kind : CommandKind} {x x' : Held} {msg : LocMsg} {c : Option Callback}
  {r : Option LocationError} {p p' : Phase} {n : ℕ}

theorem not_ends_of_ne {r : Option LocationError} (hr : r ≠ some .success) : ¬Ends key none r := by
  rintro (h | ⟨callback, h, -⟩)
  · exact hr h
  · cases h

variable {allowed : Callback → Prop}

theorem Waits.ends (h : Waits allowed c r)
    (hallowed : ¬allowed (.stoppedDistance key)) : Ends key c r := by
  rcases h with ⟨-, hr⟩ | ⟨⟨callback, hc, hcb⟩, -⟩
  · exact Or.inl hr
  · exact Or.inr ⟨callback, hc, fun heq ↦ hallowed (heq ▸ hcb)⟩

theorem Waits.switches (h : Waits allowed c r)
    (hallowed : ∀ callback, allowed callback → callback.switches = 0) :
    c.elim 0 Callback.switches = 0 := by
  rcases h with ⟨rfl, -⟩ | ⟨⟨callback, rfl, hcb⟩, -⟩
  · rfl
  · exact hallowed callback hcb

/-- An update leaves a session in the maps or out of them. -/
theorem Moves.update (h : p = .away ↔ p' = .away) (hc : p = .away → c = none ∧ r ≠ some .success) :
    Moves strict key .update msg c r p p' where
  comes hp hp' := absurd (h.mp hp) hp'
  goes hp hp' := absurd (h.mpr hp') hp
  starts hk := by cases hk
  stops hk := by cases hk
  idle hp _ _ := hc hp

/-- A start finds the session away. -/
theorem Moves.start (hcb : msg.callback = none) (hp : p = .away) (h : Ends key c r → p' ≠ .away) :
    Moves strict key .start msg c r p p' where
  comes _ _ := ⟨rfl, hcb⟩
  goes hne := absurd hp hne
  starts _ _ hends := h hends
  stops hk := by cases hk
  idle _ hne := absurd rfl hne

theorem Moves.stop (hcomes : p = .away → p' = .away)
    (hends : p' = .away ∧ (p ≠ .away → strict → Ends key c r) ∨ p' = p ∧ ¬Ends key c r)
    (hc : msg.callback = none → p = .away → c = none ∧ r ≠ some .success) :
    Moves strict key .stop msg c r p p' where
  comes hp hp' := absurd (hcomes hp) hp'
  goes hp hp' := by
    rcases hends with ⟨-, hends⟩ | ⟨rfl, -⟩
    · exact Or.inr ⟨rfl, hends hp⟩
    · exact absurd hp' hp
  starts hk := by cases hk
  stops _ h := by
    rcases hends with ⟨hp', -⟩ | ⟨-, hnot⟩
    · exact hp'
    · exact absurd h hnot
  idle hp _ hcb := hc hcb hp

/-- What a command does to the phase of its session. -/
theorem Reacts.phase_command (h : Reacts supported lock key x msg x' c r)
    (hcommand : msg.command = some (kind, key)) (hp : p.Of supported x n)
    (hstart : kind = .start → p = .away) :
    ∃ p', p'.Of supported x' (c.elim 0 Callback.switches + n) ∧
      Moves strict key kind msg c r p p' := by
  have hkind : ∀ {k}, some (k, key) = some (kind, key) → k = kind := fun heq ↦
    congrArg Prod.fst (some_inj.mp heq)
  cases h with
  | startIdle o =>
    obtain rfl := hkind hcommand
    refine ⟨p, by simpa using hp, .start rfl (hstart rfl) ?_⟩
    exact fun hends ↦ absurd hends (not_ends_of_ne (by simp))
  | startDistance o o' ho =>
    obtain rfl := hkind hcommand
    obtain rfl := hstart rfl
    refine ⟨.here, ⟨?_, by simp [Callback.switches, hp.2]⟩, .start rfl rfl (by simp)⟩
    rw [hp.1]
    exact Held.one_save_nothing supported o'
  | startTime o o' ho hc =>
    obtain rfl := hkind hcommand
    obtain rfl := hstart rfl
    refine ⟨.here, ⟨?_, ?_⟩, .start rfl rfl (by simp)⟩
    · rw [hp.1]
      exact Held.one_save_nothing supported o'
    · rw [hc.switches (by rintro _ rfl; rfl), hp.2]
  | updateIdle o hr =>
    obtain rfl := hkind hcommand
    exact ⟨p, by simpa using hp, .update Iff.rfl fun _ ↦ ⟨rfl, hr⟩⟩
  | switchToDistance o o' htime hc =>
    obtain rfl := hkind hcommand
    obtain rfl := hp.eq_here (Held.ne_nothing_of_time htime)
    refine ⟨.here, ⟨?_, ?_⟩, .update (by simp) (by simp)⟩
    · rw [hp.1.erase]
      exact Held.one_save_nothing supported o'
    · rw [hc.switches (by rintro _ (rfl | rfl) <;> rfl), hp.2]
  | switchToTime o o' hdist ho =>
    obtain rfl := hkind hcommand
    obtain rfl := hp.eq_here (Held.ne_nothing_of_dist hdist)
    refine ⟨.switching, ⟨hp.1.erase, ?_⟩, .update (by simp) (by simp)⟩
    simp [Callback.switches, hp.2]
  | updateTime o o' old htime ho hc =>
    obtain rfl := hkind hcommand
    have hne : x.time ≠ none := by simp [htime]
    obtain rfl := hp.eq_here (Held.ne_nothing_of_time hne)
    refine ⟨.here, ⟨hp.1.save_time hne ?_, ?_⟩, .update (by simp) (by simp)⟩
    · exact fun hd ↦ absurd ho hd.1.ne'
    · rw [hc.switches (by rintro _ rfl; rfl), hp.2]
  | restartDistance o o' hdist ho =>
    obtain rfl := hkind hcommand
    obtain rfl := hp.eq_here (Held.ne_nothing_of_dist hdist)
    exact ⟨.here, ⟨hp.1, by simp [Callback.switches, hp.2]⟩, .update (by simp) (by simp)⟩
  | stopTime htime hc =>
    obtain rfl := hkind hcommand
    obtain rfl := hp.eq_here (Held.ne_nothing_of_time htime)
    refine ⟨.away, ⟨hp.1.erase, ?_⟩, .stop (by simp) (Or.inl ⟨rfl, ?_⟩) (by simp)⟩
    · rw [hc.switches (by rintro _ (rfl | rfl) <;> rfl), hp.2]
    · exact fun _ _ ↦ hc.ends (by simp)
  | stopDistance htime hdist =>
    obtain rfl := hkind hcommand
    obtain rfl := hp.eq_here (Held.ne_nothing_of_dist hdist)
    refine ⟨.here, ⟨hp.1, by simp [Callback.switches, hp.2]⟩,
      .stop (by simp) (Or.inr ⟨rfl, ?_⟩) (by simp)⟩
    -- only the engine's answer ends a distance based session
    simp [Ends]
  | stopUnknown =>
    obtain rfl := hkind hcommand
    refine ⟨p, by simpa using hp, .stop id (Or.inr ⟨rfl, not_ends_of_ne (by simp)⟩) ?_⟩
    exact fun _ _ ↦ ⟨rfl, by simp⟩
  | started | updatedTime | stoppedTime | switchedToTime | restart | restarted
  | stoppedDistance => cases hcommand

/-- A callback that leaves the phase as it is; if it is one of a stop, the session is away. -/
theorem Moves.refl_callback (hcb : msg.callback ≠ none) (hstop : kind = .stop → p = .away) :
    Moves strict key kind msg c r p p where
  comes hp hp' := absurd hp hp'
  goes hp hp' := absurd hp' hp
  starts _ hnone := absurd hnone hcb
  stops hk _ := hstop hk
  idle _ _ hnone := absurd hnone hcb

/-- What a callback does to the phase of its session. -/
theorem Reacts.phase_callback {callback : Callback} {err : LocationError}
    (h : Reacts supported lock key x (.locApiResponse callback err) x' c r)
    (hfit : callback.Fits supported kind) (hp : p.Of supported x (callback.switches + n))
    (hended : kind = .stop → callback ≠ .stoppedDistance key → p = .away)
    (hkeeps : LocMsg.Keeps lock kind x (callback.switches + n) (.locApiResponse callback err))
    (hunstopped : strict → LocMsg.KeepsUnstopped lock kind (.locApiResponse callback err)) :
    ∃ p', p'.Of supported x' (c.elim 0 Callback.switches + n) ∧
      Moves strict key kind (.locApiResponse callback err) c r p p' := by
  have hcb : (LocMsg.locApiResponse callback err).callback ≠ none := by simp [LocMsg.callback]
  cases h with
  | started callback hc err =>
    have hswitches : callback.switches = 0 := by rcases hc with rfl | rfl <;> rfl
    rw [hswitches] at hp
    have hstop : kind = .stop → p = .away := fun hk ↦
      hended hk (by rcases hc with rfl | rfl <;> simp)
    by_cases href : Refused lock err
    · rw [if_pos href]
      refine ⟨_, hp.erase, ?_⟩
      by_cases hhere : p = .here
      · -- only the start itself takes its session back
        rw [if_pos hhere]
        have hk : kind = .start := by
          cases kind with
          | start => rfl
          | update =>
            rcases hc with rfl | rfl
            · cases hfit
            · subst hhere
              exact absurd (hkeeps rfl href) hp.1.ne_nothing
          | stop =>
            rw [hstop rfl] at hhere
            cases hhere
        subst hk
        exact {
          comes := fun _ hne ↦ absurd rfl hne
          goes := fun _ _ ↦ Or.inl ⟨rfl, not_ends_of_ne (by simpa using href.2)⟩
          starts := fun _ hnone ↦ absurd hnone hcb
          stops := fun _ _ ↦ rfl
          idle := fun _ _ hnone ↦ absurd hnone hcb }
      · rw [if_neg hhere]
        exact .refl_callback hcb hstop
    · rw [if_neg href]
      exact ⟨p, hp, .refl_callback hcb hstop⟩
  | updatedTime old err =>
    cases kind with
    | start | stop => cases hfit
    | update =>
      have hold : ¬old.IsDistance supported := hfit
      by_cases href : Refused lock err
      · rw [if_pos href]
        have htime : x.time ≠ none := hkeeps href
        obtain rfl := hp.eq_here (Held.ne_nothing_of_time htime)
        exact ⟨.here, ⟨hp.1.save_time htime hold, hp.2⟩, .refl_callback hcb (by simp)⟩
      · rw [if_neg href]
        exact ⟨p, hp, .refl_callback hcb (by simp)⟩
  | stoppedTime err => exact ⟨p, hp, .refl_callback hcb fun hk ↦ hended hk (by simp)⟩
  | switchedToTime o err hc =>
    cases kind with
    | start | stop => cases hfit
    | update =>
      have hswitching : p = .switching ∧ n = 0 ∧ x = .nothing := by
        cases p with
        | away | here => exact absurd hp.2 (by simp [Callback.switches])
        | switching => exact ⟨rfl, by simpa [Callback.switches] using hp.2, hp.1⟩
      obtain ⟨rfl, rfl, rfl⟩ := hswitching
      refine ⟨.here, ⟨Held.one_save_nothing supported o, ?_⟩, .update (by simp) (by simp)⟩
      rw [hc.switches (by rintro _ rfl; rfl)]
  | restart o err hc =>
    cases kind with
    | start | stop => cases hfit
    | update =>
      refine ⟨p, ?_, .refl_callback hcb (by simp)⟩
      rcases hc with rfl | rfl <;> exact hp
  | restarted o err =>
    cases kind with
    | start | stop => cases hfit
    | update =>
      have ho : o.IsDistance supported := hfit
      by_cases hacc : Accepted lock err
      · rw [if_pos hacc]
        have hdist : x.dist ≠ none := hkeeps hacc
        obtain rfl := hp.eq_here (Held.ne_nothing_of_dist hdist)
        exact ⟨.here, ⟨hp.1.save_dist hdist ho, hp.2⟩, .refl_callback hcb (by simp)⟩
      · rw [if_neg hacc]
        exact ⟨p, hp, .refl_callback hcb (by simp)⟩
  | stoppedDistance err =>
    cases kind with
    | start | update => cases hfit
    | stop =>
      by_cases hacc : Accepted lock err
      · rw [if_pos hacc]
        refine ⟨_, hp.erase, .stop ?_ ?_ ?_⟩
        · rintro rfl
          rfl
        · by_cases herr : err = .success
          · -- no switch is under way that would bring the session back
            have hn : n = 0 := by simpa [Callback.switches] using hkeeps herr
            refine Or.inl ⟨?_, fun _ _ ↦ Or.inl (by rw [herr])⟩
            cases p with
            | away | here => rfl
            | switching => exact absurd hp.2 (by simp [Callback.switches, hn])
          · by_cases hhere : p = .here
            · rw [if_pos hhere]
              exact Or.inl ⟨rfl, fun _ hstrict ↦ absurd (hunstopped hstrict hacc) herr⟩
            · rw [if_neg hhere]
              exact Or.inr ⟨rfl, not_ends_of_ne (by simpa using herr)⟩
        · exact fun hnone ↦ absurd hnone hcb
      · rw [if_neg hacc]
        have herr : err ≠ .success := fun heq ↦ hacc (Or.inr heq)
        exact ⟨p, hp, .stop id (Or.inr ⟨rfl, not_ends_of_ne (by simpa using herr)⟩)
          fun hnone ↦ absurd hnone hcb⟩

theorem Waits.forall (h : Waits allowed c r) {q : Callback → Prop}
    (hq : ∀ callback, allowed callback → q callback) : ∀ callback ∈ c, q callback := by
  intro callback hmem
  rcases h with ⟨rfl, -⟩ | ⟨⟨callback', rfl, hcb⟩, -⟩
  · cases hmem
  · obtain rfl := some_inj.mp hmem
    exact hq _ hcb

theorem Waits.once (h : Waits allowed c r) (hc : c ≠ none) :
    r ≠ some .success := by
  rcases h with ⟨hnone, -⟩ | ⟨-, rfl⟩
  · exact absurd hnone hc
  · simp

variable (h : Reacts supported lock key x msg x' c r)
include h

/-- A success is not reported as long as a request is made. -/
theorem Reacts.once (hc : c ≠ none) :
    r ≠ some .success := by
  cases h with
  | startTime _ _ _ hw => exact hw.once hc
  | switchToDistance _ _ _ hw => exact hw.once hc
  | updateTime _ _ _ _ _ hw => exact hw.once hc
  | stopTime _ hw => exact hw.once hc
  | switchedToTime _ _ hw => exact hw.once hc
  | startDistance | switchToTime | restartDistance | stopDistance | restart => simp
  | startIdle | updateIdle | stopUnknown | started | updatedTime | stoppedTime | restarted
  | stoppedDistance => exact absurd rfl hc

/-- The requests that are made are for the session. -/
theorem Reacts.owes :
    ∀ callback ∈ c, callback.owes = some key := by
  have hrestart : ∀ callback : Callback, callback = .stoppedTime key ∨ callback = .startedTime key →
      callback.owes = some key := by
    rintro _ (rfl | rfl) <;> rfl
  cases h with
  | startTime _ _ _ hw | switchedToTime _ _ hw => exact hw.forall fun _ hcb ↦ hrestart _ (Or.inr hcb)
  | switchToDistance _ _ _ hw => exact hw.forall hrestart
  | updateTime _ _ _ _ _ hw =>
    refine hw.forall ?_
    rintro _ rfl
    rfl
  | stopTime _ hw => exact hw.forall hrestart
  | restart o err hc => rcases hc with rfl | rfl <;> simp [Callback.owes]
  | startDistance | switchToTime | restartDistance | stopDistance => simp [Callback.owes]
  | startIdle | updateIdle | stopUnknown | started | updatedTime | stoppedTime | restarted
  | stoppedDistance => simp

/-- The requests that are made fit the command. -/
theorem Reacts.fits (hmsg : msg.Fits supported kind)
    (hp : p.Of supported x n) : ∀ callback ∈ c, callback.Fits supported kind := by
  obtain ⟨hcommand, hcallback⟩ := hmsg
  cases h with
  | startIdle | updateIdle | stopUnknown | started | updatedTime | stoppedTime | restarted
  | stoppedDistance => simp
  | startDistance o o' ho =>
    obtain rfl : CommandKind.start = kind := hcommand _ rfl
    simp [Callback.Fits]
  | startTime o o' ho hc =>
    obtain rfl : CommandKind.start = kind := hcommand _ rfl
    refine hc.forall ?_
    rintro _ rfl
    trivial
  | switchToDistance o o' htime hc =>
    obtain rfl : CommandKind.update = kind := hcommand _ rfl
    refine hc.forall ?_
    rintro _ (rfl | rfl) <;> trivial
  | switchToTime o o' hdist ho =>
    obtain rfl : CommandKind.update = kind := hcommand _ rfl
    simp [Callback.Fits, ho]
  | updateTime o o' old htime ho hc =>
    obtain rfl : CommandKind.update = kind := hcommand _ rfl
    obtain rfl := hp.eq_here (Held.ne_nothing_of_time (by simp [htime]))
    refine hc.forall ?_
    rintro _ rfl
    rcases hp.1 with ⟨o, ho, rfl⟩ | ⟨o, -, rfl⟩
    · exact some_inj.mp htime ▸ ho
    · cases htime
  | restartDistance o o' hdist ho =>
    obtain rfl : CommandKind.update = kind := hcommand _ rfl
    obtain rfl := hp.eq_here (Held.ne_nothing_of_dist hdist)
    rcases hp.1 with ⟨o, -, rfl⟩ | ⟨o, hsupported, -⟩
    · exact absurd rfl hdist
    · simp [Callback.Fits, TrackingOptions.IsDistance, ho, hsupported]
  | stopTime htime hc =>
    obtain rfl : CommandKind.stop = kind := hcommand _ rfl
    refine hc.forall ?_
    rintro _ (rfl | rfl) <;> trivial
  | stopDistance =>
    obtain rfl : CommandKind.stop = kind := hcommand _ rfl
    simp [Callback.Fits]
  | switchedToTime o err hc =>
    have hfit : Callback.Fits supported kind (.switchToTime key o) := hcallback _ rfl
    cases kind with
    | start | stop => cases hfit
    | update =>
      refine hc.forall ?_
      rintro _ rfl
      trivial
  | restart o err hc =>
    have hfit : Callback.Fits supported kind (.restartDistance key o) := hcallback _ rfl
    cases kind with
    | start | stop => cases hfit
    | update =>
      rcases hc with rfl | rfl
      · simp
      · rintro _ ⟨⟩
        exact hfit

end

/-! ## A session and its commands -/

/-- A command is carried out, if it is not yet answered. -/
def Done (key : LocationSessionKey) (succeeded : ℕ → Prop) (flights : List (Owned Callback))
    (n : ℕ) : Prop :=
  succeeded n ∨ ∃ callback, (some n, callback) ∈ flights ∧ callback ≠ .stoppedDistance key

/-- How a session is bound up with the commands that have been processed for it, those that were
answered with success and its requests under way. -/
structure Sound (supported : Bool) (strict : Prop) (key : LocationSessionKey)
    (given : CommandKind → ℕ → Prop) (succeeded : ℕ → Prop) (x : Held)
    (flights : List (Owned Callback)) (p : Phase) : Prop where
  phase : p.Of supported x (switchesOf flights)
  fits : ∀ f ∈ flights, ∃ n kind, f.1 = some n ∧ given kind n ∧ f.2.owes = some key ∧
    f.2.Fits supported kind ∧ ∃ i ≤ n, given .start i
  nodup : (flights.map Prod.fst).Nodup
  unanswered : ∀ f ∈ flights, ∀ n ∈ f.1, ¬succeeded n
  begun : (∃ n, given .start n) ∨
    p = .away ∧ flights = [] ∧ ∀ n, given .stop n → ¬succeeded n
  stopped : ∀ n, given .stop n → Done key succeeded flights n → p = .away
  started : ∀ n, given .start n → Done key succeeded flights n →
    (∀ j, given .stop j → n < j → strict ∧ ¬Done key succeeded flights j) → p ≠ .away

/-- The message at hand: a command that is new for the session, or the answer to one of its
requests. -/
structure Turn (key : LocationSessionKey) (given : CommandKind → ℕ → Prop) (succeeded : ℕ → Prop)
    (flights : List (Owned Callback)) (msg : LocMsg) (n : ℕ) (kind : CommandKind)
    (rest : List (Owned Callback)) : Prop where
  perm : flights.Perm ((msg.callback.map (some n, ·)).toList ++ rest)
  kind_eq : ∀ k, given k n → k = kind
  unique : ∀ i j, given .start i → given .start j → i = j
  command : msg.callback = none → msg.command = some (kind, key)
  new : msg.callback = none → ¬succeeded n ∧ ∀ k j, given k j → j < n
  first : msg.callback = none → kind = .start → ∀ j, ¬given .start j

theorem switchesOf_perm {flights flights' : List (Owned Callback)} (h : flights.Perm flights') :
    switchesOf flights = switchesOf flights' := (h.map _).sum_eq

theorem switchesOf_append (flights flights' : List (Owned Callback)) :
    switchesOf (flights ++ flights') = switchesOf flights + switchesOf flights' := by
  rw [switchesOf, map_append, sum_append]
  rfl

theorem switchesOf_toList (n : ℕ) (c : Option Callback) :
    switchesOf (c.map (some n, ·)).toList = c.elim 0 Callback.switches := by
  cases c <;> simp [switchesOf]

namespace Sound

variable {supported : Bool} {strict : Prop} {lock : EngineLockState} {key : LocationSessionKey}
  {given given' : CommandKind → ℕ → Prop} {succeeded succeeded' : ℕ → Prop} {x x' : Held}
  {flights flights' rest : List (Owned Callback)} {p : Phase} {msg : LocMsg} {n : ℕ}
  {kind : CommandKind} {c : Option Callback} {r : Option LocationError}

/-- Only the commands of the session matter, and not the order of its requests. -/
theorem congr (h : Sound supported strict key given succeeded x flights p)
    (hgiven : ∀ k j, given' k j ↔ given k j)
    (hsucceeded : ∀ k j, given k j → (succeeded' j ↔ succeeded j))
    (hflights : flights'.Perm flights) :
    Sound supported strict key given' succeeded' x flights' p := by
  have hmem : ∀ f, f ∈ flights' ↔ f ∈ flights := fun f ↦ hflights.mem_iff
  have hdone : ∀ k j, given k j →
      (Done key succeeded' flights' j ↔ Done key succeeded flights j) := fun k j hj ↦ by
    simp only [Done, hmem, hsucceeded k j hj]
  refine ⟨?_, ?_, ?_, ?_, ?_, ?_, ?_⟩
  · rw [switchesOf_perm hflights]
    exact h.phase
  · simpa only [hmem, hgiven] using h.fits
  · exact ((hflights.map _).nodup_iff).mpr h.nodup
  · intro f hf j hj
    obtain ⟨j', k, hj', hk, -⟩ := h.fits f ((hmem f).mp hf)
    obtain rfl : j' = j := some_inj.mp (hj'.symm.trans hj)
    rw [hsucceeded k j' hk]
    exact h.unanswered f ((hmem f).mp hf) j' hj
  · refine h.begun.imp (fun ⟨j, hj⟩ ↦ ⟨j, (hgiven _ _).mpr hj⟩) fun ⟨hp, hnil, hstop⟩ ↦
      ⟨hp, ?_, fun j hj ↦ ?_⟩
    · rw [hnil] at hflights
      exact hflights.eq_nil
    · rw [hgiven] at hj
      rw [hsucceeded _ j hj]
      exact hstop j hj
  · intro j hj hs
    rw [hgiven] at hj
    exact h.stopped j hj ((hdone _ j hj).mp hs)
  · intro j hj hs hstops
    rw [hgiven] at hj
    refine h.started j hj ((hdone _ j hj).mp hs) fun i hi hlt ↦ ?_
    rw [← hdone _ i hi]
    exact hstops i ((hgiven _ i).mpr hi) hlt

section

variable (ht : Turn key given succeeded flights msg n kind rest)
include ht

/-- Where the requests under way are split into that of the message and the others. -/
theorem mem_of_rest {f : Owned Callback} (hf : f ∈ rest) : f ∈ flights :=
  ht.perm.mem_iff.mpr (mem_append_right _ hf)

theorem mem_of_callback
    {callback : Callback} (hcb : msg.callback = some callback) : (some n, callback) ∈ flights := by
  refine ht.perm.mem_iff.mpr (mem_append_left _ ?_)
  rw [hcb]
  exact mem_singleton_self _

/-- Another command is carried out as before. -/
theorem done_iff_of_ne {j : ℕ} (hj : j ≠ n) :
    Done key (fun j ↦ succeeded j ∨ j = n ∧ r = some .success)
        (rest ++ (c.map (some n, ·)).toList) j ↔ Done key succeeded flights j := by
  have hmem : ∀ callback, (some j, callback) ∈ rest ++ (c.map (some n, ·)).toList ↔
      (some j, callback) ∈ flights := by
    intro callback
    rw [ht.perm.mem_iff, mem_append, mem_append, or_comm]
    refine or_congr_left ?_
    cases c <;> cases msg.callback <;> simp [hj]
  simp only [Done, hmem, hj, false_and, or_false]

end

variable (h : Sound supported strict key given succeeded x flights p)
  (ht : Turn key given succeeded flights msg n kind rest)
include h ht

/-- The callback of an answer fits its command. -/
theorem callback {callback : Callback}
    (hcb : msg.callback = some callback) : given kind n ∧ callback.Fits supported kind := by
  obtain ⟨j, k, hj, hk, -, hfit, -⟩ := h.fits _ (mem_of_callback ht hcb)
  obtain rfl : n = j := some_inj.mp hj
  obtain rfl := ht.kind_eq k hk
  exact ⟨hk, hfit⟩

theorem not_succeeded : ¬succeeded n := by
  rcases hcb : msg.callback with - | callback
  · exact (ht.new hcb).1
  · exact h.unanswered _ (mem_of_callback ht hcb) n rfl

/-- A command has at most one request under way. -/
theorem owner_ne {f : Owned Callback} (hf : f ∈ rest) :
    f.1 ≠ some n := by
  intro heq
  rcases hcb : msg.callback with - | callback
  · obtain ⟨j, k, hj, hk, -⟩ := h.fits f (mem_of_rest ht hf)
    obtain rfl : j = n := some_inj.mp (hj.symm.trans heq)
    exact lt_irrefl _ ((ht.new hcb).2 k j hk)
  · have hnodup := ((ht.perm.map Prod.fst).nodup_iff).mp h.nodup
    rw [hcb] at hnodup
    simp only [Option.map_some, Option.toList_some, singleton_append, map_cons,
      nodup_cons] at hnodup
    exact hnodup.1 (heq ▸ mem_map_of_mem hf)

theorem exists_moves (hr : Reacts supported lock key x msg x' c r)
    (hkeeps : msg.Keeps lock kind x (switchesOf flights))
    (hunstopped : strict → msg.KeepsUnstopped lock kind) :
    ∃ p', p'.Of supported x' (switchesOf (rest ++ (c.map (some n, ·)).toList)) ∧
      Moves strict key kind msg c r p p' := by
  have hphase := h.phase
  have hswitches := switchesOf_perm ht.perm
  rw [switchesOf_append, switchesOf_toList] at hswitches
  rw [hswitches] at hphase hkeeps
  rw [switchesOf_append, switchesOf_toList, add_comm]
  cases msg with
  | startTracking | updateTracking | stopTracking =>
    refine hr.phase_command (ht.command rfl) (by simpa [LocMsg.callback] using hphase) fun hk ↦ ?_
    rcases h.begun with ⟨j, hj⟩ | ⟨hp, -⟩
    · exact absurd hj (ht.first rfl hk j)
    · exact hp
  | locApiResponse callback err =>
    obtain ⟨hgiven, hfit⟩ := h.callback ht rfl
    refine hr.phase_callback hfit hphase (fun hk hne ↦ ?_) hkeeps hunstopped
    subst hk
    exact h.stopped n hgiven (Or.inr ⟨callback, mem_of_callback ht rfl, hne⟩)

theorem done_self_iff :
    Done key (fun j ↦ succeeded j ∨ j = n ∧ r = some .success)
        (rest ++ (c.map (some n, ·)).toList) n ↔ Ends key c r := by
  have hmem : ∀ callback, (some n, callback) ∈ rest ++ (c.map (some n, ·)).toList ↔
      c = some callback := by
    intro callback
    rw [mem_append, or_iff_right fun hf ↦ h.owner_ne ht hf rfl]
    cases c <;> simp [eq_comm]
  simp only [Done, hmem, h.not_succeeded ht, true_and, false_or, Ends]

/-- The start of a session comes before all its other commands. -/
theorem start_lt {i : ℕ} (hi : given .start i) (hne : i ≠ n) : i < n := by
  rcases hcb : msg.callback with - | callback
  · exact (ht.new hcb).2 _ i hi
  · obtain ⟨j, k, hj, -, -, -, i', hle, hi'⟩ := h.fits _ (mem_of_callback ht hcb)
    obtain rfl : n = j := some_inj.mp hj
    rw [← ht.unique i i' hi hi'] at hle
    exact lt_of_le_of_ne hle hne

variable {p' : Phase}

/-- A request is made for a session that has been started. -/
theorem exists_start (hmoves : Moves strict key kind msg c r p p') (hc : c ≠ none) :
    ∃ i ≤ n, given .start i ∨ CommandKind.start = kind ∧ i = n := by
  rcases hcb : msg.callback with - | callback
  · by_cases hk : kind = .start
    · exact ⟨n, le_rfl, Or.inr ⟨hk.symm, rfl⟩⟩
    rcases h.begun with ⟨i, hi⟩ | ⟨hp, -⟩
    · exact ⟨i, ((ht.new hcb).2 _ i hi).le, Or.inl hi⟩
    · exact absurd (hmoves.idle hp hk hcb).1 hc
  · obtain ⟨j, k, hj, -, -, -, i, hle, hi⟩ := h.fits _ (mem_of_callback ht hcb)
    obtain rfl : n = j := some_inj.mp hj
    exact ⟨i, hle, Or.inl hi⟩

/-- A session that has not begun begins with its start or stays as it is. -/
theorem begun_step (hmoves : Moves strict key kind msg c r p p') :
    (∃ i, given .start i ∨ CommandKind.start = kind ∧ i = n) ∨
      p' = .away ∧ rest ++ (c.map (some n, ·)).toList = [] ∧
        ∀ j, (given .stop j ∨ CommandKind.stop = kind ∧ j = n) →
          ¬(succeeded j ∨ j = n ∧ r = some .success) := by
  rcases h.begun with ⟨i, hi⟩ | ⟨hp, hnil, hstop⟩
  · exact Or.inl ⟨i, Or.inl hi⟩
  by_cases hk : kind = .start
  · exact Or.inl ⟨n, Or.inr ⟨hk.symm, rfl⟩⟩
  have hperm := ht.perm
  rw [hnil] at hperm
  obtain ⟨hcb, hrest⟩ := append_eq_nil_iff.mp hperm.symm.eq_nil
  have hnone : msg.callback = none := by simpa using hcb
  obtain ⟨hc, hr⟩ := hmoves.idle hp hk hnone
  refine Or.inr ⟨?_, by simp [hrest, hc], ?_⟩
  · by_contra hp'
    exact hk (hmoves.comes hp hp').1
  · rintro j (hj | ⟨-, rfl⟩) (hs | ⟨-, hsuccess⟩)
    · exact hstop j hj hs
    · exact hr hsuccess
    · exact h.not_succeeded ht hs
    · exact hr hsuccess

theorem stopped_step (hmoves : Moves strict key kind msg c r p p') {j : ℕ}
    (hj : given .stop j ∨ CommandKind.stop = kind ∧ j = n)
    (hd : Done key (fun j ↦ succeeded j ∨ j = n ∧ r = some .success)
      (rest ++ (c.map (some n, ·)).toList) j) : p' = .away := by
  by_cases hjn : j = n
  · subst hjn
    have hk : kind = .stop := hj.elim (fun hj ↦ (ht.kind_eq _ hj).symm) fun hj ↦ hj.1.symm
    exact hmoves.stops hk ((h.done_self_iff ht).mp hd)
  have hgiven : given .stop j := hj.resolve_right fun hj ↦ hjn hj.2
  have hdone := (done_iff_of_ne ht hjn).mp hd
  by_contra hp'
  -- the session would have to come back by its start, which has been given before
  obtain ⟨hk, hcb⟩ := hmoves.comes (h.stopped j hgiven hdone) hp'
  rcases h.begun with ⟨i, hi⟩ | ⟨-, hnil, hstop⟩
  · exact ht.first hcb hk i hi
  · rcases hdone with hs | ⟨callback, hf, -⟩
    · exact hstop j hgiven hs
    · rw [hnil] at hf
      cases hf

variable (hr : Reacts supported lock key x msg x' c r)
include hr

/-- A failed stop has not been carried out. -/
theorem not_done_of_not_done (hunstopped : msg.KeepsUnstopped lock kind)
    (hn : given .stop n) (hd : ¬Ends key c r) : ¬Done key succeeded flights n := by
  obtain rfl := ht.kind_eq _ hn
  rintro (hs | ⟨callback, hf, hne⟩)
  · exact h.not_succeeded ht hs
  rcases mem_append.mp (ht.perm.mem_iff.mp hf) with hf | hf
  · obtain ⟨callback', hcb, heq⟩ := map_eq_some_iff.mp (Option.mem_toList.mp hf)
    obtain rfl : callback' = callback := (Prod.mk.inj heq).2
    cases msg with
    | startTracking | updateTracking | stopTracking => cases hcb
    | locApiResponse callback'' err =>
      obtain rfl := some_inj.mp hcb
      obtain ⟨-, hfit⟩ := h.callback ht rfl
      refine hd (Or.inl ?_)
      cases hr with
      | started callback hc err =>
        rcases hc with rfl | rfl
        · cases hfit
        · rw [hunstopped rfl]
      | stoppedTime err => rw [hunstopped rfl]
      | stoppedDistance err => exact absurd rfl hne
      | updatedTime | switchedToTime | restart | restarted => cases hfit
  · exact h.owner_ne ht hf rfl

theorem started_step (hunstopped : strict → msg.KeepsUnstopped lock kind)
    (hmoves : Moves strict key kind msg c r p p') {i : ℕ}
    (hi : given .start i ∨ CommandKind.start = kind ∧ i = n)
    (hd : Done key (fun j ↦ succeeded j ∨ j = n ∧ r = some .success)
      (rest ++ (c.map (some n, ·)).toList) i)
    (hstops : ∀ j, (given .stop j ∨ CommandKind.stop = kind ∧ j = n) → i < j →
      strict ∧ ¬Done key (fun j ↦ succeeded j ∨ j = n ∧ r = some .success)
        (rest ++ (c.map (some n, ·)).toList) j) : p' ≠ .away := by
  have hback : ∀ j, given .stop j → i < j → strict ∧ ¬Done key succeeded flights j := by
    intro j hj hlt
    obtain ⟨hstrict, hnot⟩ := hstops j (Or.inl hj) hlt
    refine ⟨hstrict, ?_⟩
    by_cases hjn : j = n
    · subst hjn
      exact h.not_done_of_not_done ht hr (hunstopped hstrict) hj
        (mt (h.done_self_iff ht).mpr hnot)
    · exact mt (done_iff_of_ne ht hjn).mpr hnot
  intro hp'
  by_cases hin : i = n
  · subst hin
    have hends := (h.done_self_iff ht).mp hd
    have hk : kind = .start := hi.elim (fun hi ↦ (ht.kind_eq _ hi).symm) fun hi ↦ hi.1.symm
    rcases hcb : msg.callback with - | callback
    · exact hmoves.starts hk hcb hends hp'
    · obtain ⟨hgiven, hfit⟩ := h.callback ht hcb
      rw [hk] at hgiven hfit
      have hp := h.started i hgiven
        (Or.inr ⟨callback, mem_of_callback ht hcb, by rintro rfl; cases hfit⟩) hback
      rcases hmoves.goes hp hp' with ⟨-, hnot⟩ | ⟨hstop, -⟩
      · exact hnot hends
      · rw [hk] at hstop
        cases hstop
  · have hgiven : given .start i := hi.resolve_right fun hi ↦ hin hi.2
    have hp := h.started i hgiven ((done_iff_of_ne ht hin).mp hd) hback
    rcases hmoves.goes hp hp' with ⟨hk, -⟩ | ⟨hk, hends⟩
    · rcases hcb : msg.callback with - | callback
      · exact ht.first hcb hk i hgiven
      · have hn := (h.callback ht hcb).1
        rw [hk] at hn
        exact hin (ht.unique i n hgiven hn)
    · obtain ⟨hstrict, hnot⟩ := hstops n (Or.inr ⟨hk.symm, rfl⟩) (h.start_lt ht hgiven hin)
      exact hnot ((h.done_self_iff ht).mpr (hends hstrict))

/-- A message that a session reacts to keeps it sound. -/
theorem step (hkeeps : msg.Keeps lock kind x (switchesOf flights))
    (hunstopped : strict → msg.KeepsUnstopped lock kind) :
    ∃ p', Sound supported strict key (fun k j ↦ given k j ∨ k = kind ∧ j = n)
      (fun j ↦ succeeded j ∨ j = n ∧ r = some .success) x'
      (rest ++ (c.map (some n, ·)).toList) p' := by
  obtain ⟨p', hphase, hmoves⟩ := h.exists_moves ht hr hkeeps hunstopped
  have hmsg : msg.Fits supported kind := by
    refine ⟨fun k hk ↦ ?_, fun callback hcb ↦ (h.callback ht hcb).2⟩
    have hnone : msg.callback = none := by
      cases msg <;> first | rfl | cases hk
    rw [ht.command hnone] at hk
    cases hk
    rfl
  have hmem : ∀ f ∈ rest ++ (c.map (some n, ·)).toList, f ∈ rest ∨ f.1 = some n ∧ c = some f.2 := by
    intro f hf
    refine (mem_append.mp hf).imp_right fun hf ↦ ?_
    obtain ⟨callback, hc, rfl⟩ := map_eq_some_iff.mp (Option.mem_toList.mp hf)
    exact ⟨rfl, hc⟩
  refine ⟨p', hphase, fun f hf ↦ ?_, ?_, fun f hf j hj ↦ ?_, h.begun_step ht hmoves,
    fun j hj hd ↦ h.stopped_step ht hmoves hj hd,
    fun i hi hd hstops ↦ h.started_step ht hr hunstopped hmoves hi hd hstops⟩
  · rcases hmem f hf with hf | ⟨howner, hc⟩
    · obtain ⟨j, k, hj, hk, howes, hfit, i, hle, hi⟩ := h.fits f (mem_of_rest ht hf)
      exact ⟨j, k, hj, Or.inl hk, howes, hfit, i, hle, Or.inl hi⟩
    · exact ⟨n, kind, howner, Or.inr ⟨rfl, rfl⟩, hr.owes f.2 hc, hr.fits hmsg h.phase f.2 hc,
        h.exists_start ht hmoves (by simp [hc])⟩
  · have hnodup := ((ht.perm.map Prod.fst).nodup_iff).mp h.nodup
    rw [map_append] at hnodup ⊢
    refine nodup_append'.mpr ⟨hnodup.of_append_right, ?_, ?_⟩
    · cases c <;> simp
    · intro owner hf hc
      obtain ⟨f, hrest, hfst⟩ := mem_map.mp hf
      obtain ⟨f', hf', heq⟩ := mem_map.mp hc
      obtain ⟨callback, -, rfl⟩ := map_eq_some_iff.mp (Option.mem_toList.mp hf')
      exact h.owner_ne ht hrest (hfst.trans heq.symm)
  · rintro (hs | ⟨rfl, hsuccess⟩)
    · rcases hmem f hf with hf | ⟨howner, -⟩
      · exact h.unanswered f (mem_of_rest ht hf) j hj hs
      · obtain rfl : n = j := some_inj.mp (howner.symm.trans hj)
        exact h.not_succeeded ht hs
    · rcases hmem f hf with hf | ⟨-, hc⟩
      · exact h.owner_ne ht hf hj
      · exact hr.once (by simp [hc]) hsuccess

end Sound

end MataDevice.Tracking
