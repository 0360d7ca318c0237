import MataDevice.Power.Hints

/-!
# Mode hints and canceled hints

The hints of the modes and of the camera follow the flags of `Power` in every run: the transitions
end the hint of the state that is left and do the one of the state that is entered, whatever the
order in which the modes come and go.

The hints that last until they are canceled do not. Three of them are ignored while a mode is on,
and their cancels are ignored as well: a hint that was started before the mode was switched on stays
when it is canceled before the mode is switched off.
-/

namespace MataDevice.Hints

open List

/-- The hint that a call does or ends. -/
def Call.hint? : Call → Option Hint
  | .doHint hint _ => some hint
  | .endHint hint => some hint
  | .acquire _ | .setDisplayLpm _ | .setProperty _ => none

theorem Call.apply_of_ne {c : Call} {hint : Hint} (h : c.hint? ≠ some hint)
    (active : Hint → Bool) : c.apply active hint = active hint := by
  cases c with
  | doHint hint' _ | endHint hint' => exact Function.update_of_ne (fun heq ↦ h (by rw [heq]; rfl)) _ _
  | acquire _ => rfl
  | setDisplayLpm _ => rfl
  | setProperty _ => rfl

/-- Calls about other hints leave a hint as it is. -/
theorem foldl_apply_of_ne {calls : List Call} {hint : Hint}
    (h : ∀ c ∈ calls, c.hint? ≠ some hint) (active : Hint → Bool) :
    calls.foldl Call.apply active hint = active hint := by
  induction calls generalizing active with
  | nil => rfl
  | cons c calls ih =>
    rw [foldl_cons, ih fun c' hc' ↦ h c' (mem_cons_of_mem _ hc'),
      Call.apply_of_ne (h c mem_cons_self)]

/-! ## The hints of the modes -/

/-- The hints of the modes. -/
def Hint.isMode : Hint → Bool
  | .vrMode | .sustainedPerformance | .vrSustainedPerformance => true
  | _ => false

/-- The hints of the streaming modes of the camera. -/
def Hint.isCameraStreaming : Hint → Bool
  | .cameraStreamingOff | .cameraStreaming | .cameraStreaming1080p | .cameraStreaming4k => true
  | _ => false

/-- The hint for the modes that are on. -/
def modeHint (vrModeOn sustainedPerfModeOn : Bool) : Option Hint :=
  match vrModeOn, sustainedPerfModeOn with
  | false, false => none
  | true, false => some .vrMode
  | false, true => some .sustainedPerformance
  | true, true => some .vrSustainedPerformance

/-- The hint for the streaming mode of the camera. -/
def cameraHint (mode : CameraStreamingMode) : Option Hint :=
  if mode = .off then none else some (kCamStreamingHint mode)

theorem isMode_kCamStreamingHint (mode : CameraStreamingMode) :
    (kCamStreamingHint mode).isMode = false := by
  cases mode <;> rfl

/-- The calls are about hints without `p`. -/
def Avoid (p : Hint → Bool) (calls : List Call) : Prop :=
  ∀ c ∈ calls, ∀ hint ∈ c.hint?, p hint = false

instance (p : Hint → Bool) (calls : List Call) : Decidable (Avoid p calls) :=
  inferInstanceAs (Decidable (∀ c ∈ calls, _))

theorem Avoid.foldl_apply {p : Hint → Bool} {calls : List Call} (h : Avoid p calls)
    (active : Hint → Bool) {hint : Hint} (hp : p hint = true) :
    calls.foldl Call.apply active hint = active hint := by
  refine foldl_apply_of_ne (fun c hc heq ↦ ?_) active
  rw [h c hc hint heq] at hp
  cases hp

namespace Power

variable {s : Power}

@[simp] theorem perform_mHintManager (r : Power × List Call) :
    (perform r).mHintManager = r.2.foldl Call.apply r.1.mHintManager := rfl

@[simp] theorem perform_mVRModeOn (r : Power × List Call) :
    (perform r).mVRModeOn = r.1.mVRModeOn := rfl

@[simp] theorem perform_mSustainedPerfModeOn (r : Power × List Call) :
    (perform r).mSustainedPerfModeOn = r.1.mSustainedPerfModeOn := rfl

@[simp] theorem perform_mCameraStreamingMode (r : Power × List Call) :
    (perform r).mCameraStreamingMode = r.1.mCameraStreamingMode := rfl

@[simp] theorem perform_mReady (r : Power × List Call) : (perform r).mReady = r.1.mReady := rfl

/-- A mode is on. -/
def ModeOn (s : Power) : Prop := s.mVRModeOn = true ∨ s.mSustainedPerfModeOn = true

theorem unlessMode_of_modeOn (h : s.ModeOn) (calls : List Call) : s.unlessMode calls = [] :=
  if_pos h

theorem unlessMode_of_not_modeOn (h : ¬s.ModeOn) (calls : List Call) : s.unlessMode calls = calls :=
  if_neg h

variable {calls : List Call}

theorem mem_of_mem_unlessMode {c : Call} (h : c ∈ s.unlessMode calls) :
    c ∈ calls := by
  rw [unlessMode] at h
  split at h
  · cases h
  · exact h

theorem avoid_unlessMode {p : Hint → Bool} (h : Avoid p calls) :
    Avoid p (s.unlessMode calls) :=
  fun c hc ↦ h c (mem_of_mem_unlessMode hc)

/-- The active hints of the modes are those of the flags. -/
def ModeAgrees (s : Power) : Prop :=
  ∀ hint : Hint, hint.isMode = true →
    (s.mHintManager hint = true ↔ modeHint s.mVRModeOn s.mSustainedPerfModeOn = some hint)

/-- The active hints of the camera are those of its mode. -/
def CameraAgrees (s : Power) : Prop :=
  ∀ hint : Hint, hint.isCameraStreaming = true →
    (s.mHintManager hint = true ↔ cameraHint s.mCameraStreamingMode = some hint)

/-- A handler that leaves the modes alone. -/
theorem ModeAgrees.perform (h : ModeAgrees s) {r : Power × List Call}
    (hcalls : Avoid Hint.isMode r.2) (hhints : r.1.mHintManager = s.mHintManager)
    (hvr : r.1.mVRModeOn = s.mVRModeOn)
    (hsustained : r.1.mSustainedPerfModeOn = s.mSustainedPerfModeOn) :
    ModeAgrees (perform r) := by
  intro hint hmode
  rw [perform_mHintManager, perform_mVRModeOn, perform_mSustainedPerfModeOn,
    hcalls.foldl_apply _ hmode, hhints, hvr, hsustained]
  exact h hint hmode

/-- A handler that leaves the camera alone. -/
theorem CameraAgrees.perform (h : CameraAgrees s) {r : Power × List Call}
    (hcalls : Avoid Hint.isCameraStreaming r.2) (hhints : r.1.mHintManager = s.mHintManager)
    (hmode : r.1.mCameraStreamingMode = s.mCameraStreamingMode) : CameraAgrees (perform r) := by
  intro hint hcamera
  rw [perform_mHintManager, perform_mCameraStreamingMode, hcalls.foldl_apply _ hcamera, hhints,
    hmode]
  exact h hint hcamera

/-- Switching a mode leaves the hints as the flags are after it. `hint` and `otherHint` are the
hints of the mode and of the other one. -/
theorem switchMode_agrees {active : Hint → Bool} {on otherOn : Bool} {hint otherHint : Hint}
    (hne : hint ≠ otherHint) (hboth : hint ≠ .vrSustainedPerformance)
    (hotherBoth : otherHint ≠ .vrSustainedPerformance) (data : ℤ)
    (h : active hint = (on && !otherOn)) (hother : active otherHint = (otherOn && !on))
    (hvr : active .vrSustainedPerformance = (on && otherOn)) :
    let r := switchMode data on otherOn hint otherHint
    r.2.foldl Call.apply active hint = (r.1 && !otherOn) ∧
      r.2.foldl Call.apply active otherHint = (otherOn && !r.1) ∧
      r.2.foldl Call.apply active .vrSustainedPerformance = (r.1 && otherOn) := by
  have hne' := hne.symm
  have hboth' := hboth.symm
  have hotherBoth' := hotherBoth.symm
  by_cases hdata : data = 0 <;> cases on <;> cases otherOn <;>
    simp [switchMode, Call.apply, Function.update, *]

/-- The hints of the modes, one by one. -/
theorem modeAgrees_iff : ModeAgrees s ↔
    s.mHintManager .vrMode = (s.mVRModeOn && !s.mSustainedPerfModeOn) ∧
      s.mHintManager .sustainedPerformance = (s.mSustainedPerfModeOn && !s.mVRModeOn) ∧
      s.mHintManager .vrSustainedPerformance = (s.mVRModeOn && s.mSustainedPerfModeOn) := by
  have hflags : ∀ vr sustained : Bool,
      (modeHint vr sustained = some .vrMode ↔ (vr && !sustained) = true) ∧
        (modeHint vr sustained = some .sustainedPerformance ↔ (sustained && !vr) = true) ∧
        (modeHint vr sustained = some .vrSustainedPerformance ↔ (vr && sustained) = true) := by
    decide
  obtain ⟨hvr, hsustained, hboth⟩ := hflags s.mVRModeOn s.mSustainedPerfModeOn
  constructor
  · intro h
    exact ⟨Bool.eq_iff_iff.mpr ((h _ rfl).trans hvr),
      Bool.eq_iff_iff.mpr ((h _ rfl).trans hsustained),
      Bool.eq_iff_iff.mpr ((h _ rfl).trans hboth)⟩
  · rintro ⟨hv, hs, hb⟩ hint hmode
    cases hint with
    | vrMode => exact (Bool.eq_iff_iff.mp hv).trans hvr.symm
    | sustainedPerformance => exact (Bool.eq_iff_iff.mp hs).trans hsustained.symm
    | vrSustainedPerformance => exact (Bool.eq_iff_iff.mp hb).trans hboth.symm
    | _ => cases hmode

/-- A switch of a mode is about the hints of the modes. -/
theorem avoid_switchMode {p : Hint → Bool} {on otherOn : Bool} {hint otherHint : Hint} {data : ℤ}
    (h : p hint = false) (hother : p otherHint = false)
    (hboth : p .vrSustainedPerformance = false) :
    Avoid p (switchMode data on otherOn hint otherHint).2 := by
  unfold switchMode
  split_ifs <;> simp [Avoid, Call.hint?, h, hother, hboth]

/-! ## Every request keeps the hints and the flags together -/

/-- The hints of the modes and of the camera. -/
def Flagged (hint : Hint) : Bool := hint.isMode || hint.isCameraStreaming

/-- The active hints of the modes and of the camera are those of the flags. -/
structure Agrees (s : Power) : Prop where
  mode : ModeAgrees s
  camera : CameraAgrees s

/-- Calls about the other hints change nothing. -/
theorem Agrees.other (h : Agrees s) (hcalls : Avoid Flagged calls) :
    Agrees (Power.perform (s, calls)) where
  mode := h.mode.perform
    (fun c hc hint heq ↦ (Bool.or_eq_false_iff.mp (hcalls c hc hint heq)).1) rfl rfl rfl
  camera := h.camera.perform
    (fun c hc hint heq ↦ (Bool.or_eq_false_iff.mp (hcalls c hc hint heq)).2) rfl rfl

theorem avoid_untilCanceled {hint : Hint} (start : Bool) (h : Flagged hint = false) :
    Avoid Flagged (untilCanceled hint start) := by
  cases start <;> simp [untilCanceled, Avoid, Call.hint?, h]

theorem Agrees.powerHint (h : Agrees s) (hint : PowerHint10) (data : ℤ) :
    Agrees (Power.perform (s.powerHint hint data)) := by
  rw [Power.powerHint.eq_def]
  split
  · exact h
  · cases hint with
    | interaction => exact h.other (avoid_unlessMode (by simp [Avoid, Call.hint?]))
    | sustainedPerformance =>
      obtain ⟨hvr, hsustained, hboth⟩ := modeAgrees_iff.mp h.mode
      obtain ⟨hs, hv, hb⟩ := switchMode_agrees (by decide) (by decide) (by decide) data
        hsustained hvr (hboth.trans (Bool.and_comm _ _))
      exact ⟨modeAgrees_iff.mpr ⟨hv, hs, hb.trans (Bool.and_comm _ _)⟩,
        h.camera.perform (avoid_switchMode rfl rfl rfl) rfl rfl⟩
    | vrMode =>
      obtain ⟨hvr, hsustained, hboth⟩ := modeAgrees_iff.mp h.mode
      exact ⟨modeAgrees_iff.mpr
        (switchMode_agrees (by decide) (by decide) (by decide) data hvr hsustained hboth),
        h.camera.perform (avoid_switchMode rfl rfl rfl) rfl rfl⟩
    | launch => exact h.other (avoid_unlessMode (avoid_untilCanceled _ rfl))
    | lowPower => exact h.other (by simp [Avoid, Call.hint?])
    | other _ => exact h

/-- The camera gets another mode: the hint of the old one is ended, and the one of the new one is
done. -/
theorem CameraAgrees.switchCamera (h : CameraAgrees s) {mode : CameraStreamingMode}
    (hne : s.mCameraStreamingMode ≠ mode) :
    CameraAgrees (Power.perform ({ s with mCameraStreamingMode := mode }, s.switchCamera mode)) := by
  intro hint hcamera
  have hold := h hint hcamera
  cases hmode : s.mCameraStreamingMode <;> cases mode <;> cases hint <;>
    simp_all [Power.switchCamera, Call.apply, cameraHint, kCamStreamingHint,
      Hint.isCameraStreaming, Function.update]

theorem Agrees.powerHintAsync12 (h : Agrees s) (hint : PowerHint12) (data : ℤ) :
    Agrees (Power.perform (s.powerHintAsync12 hint data)) := by
  rw [Power.powerHintAsync12.eq_def]
  split
  · exact h
  · cases hint with
    | hint10 hint => exact h.powerHint hint data
    | audioLowLatency => exact h.other (avoid_untilCanceled _ rfl)
    | audioStreaming =>
      refine h.other (avoid_unlessMode ?_)
      rw [audioStreaming]
      split_ifs <;> simp [Avoid, Call.hint?, Flagged, Hint.isMode, Hint.isCameraStreaming]
    | cameraLaunch | cameraShot =>
      refine h.other ?_
      split_ifs <;> simp [Avoid, Call.hint?, Flagged, Hint.isMode, Hint.isCameraStreaming]
    | cameraStreaming =>
      dsimp only
      split
      · exact h
      · next mode _ =>
        split
        · exact h
        · next hne =>
          refine ⟨h.mode.perform ?_ rfl rfl rfl, h.camera.switchCamera hne⟩
          have hlaunch : Hint.isMode .cameraLaunch = false := rfl
          dsimp only
          rw [switchCamera]
          split_ifs <;> simp [Avoid, Call.hint?, isMode_kCamStreamingHint, hlaunch]

theorem Agrees.handle (h : Agrees s) (r : Request) : Agrees (Power.perform (s.handle r)) := by
  cases r with
  | powerHint hint data => exact h.powerHint hint data
  | powerHintAsync12 hint data => exact h.powerHintAsync12 hint data
  | powerHintAsync13 hint data =>
    rw [Power.handle, Power.powerHintAsync13.eq_def]
    split
    · exact h
    · cases hint with
      | hint12 hint => exact h.powerHintAsync12 hint data
      | expensiveRendering => exact h.other (avoid_unlessMode (avoid_untilCanceled _ rfl))
  | timeout hint =>
    refine h.other ?_
    cases hint <;> simp [timed, Avoid, Call.hint?, Flagged, Hint.isMode, Hint.isCameraStreaming]

/-- The state after `vendor.powerhal.state` was read. -/
theorem agrees_initState (state : String) :
    Agrees (Power.perform ({ (initState state).1 with mReady := true }, (initState state).2)) := by
  constructor
  · refine modeAgrees_iff.mpr ?_
    rw [initState]
    split_ifs <;> exact ⟨rfl, rfl, rfl⟩
  · intro hint hcamera
    rw [initState]
    cases hint with
    | cameraStreamingOff => split_ifs <;> decide
    | cameraStreaming => split_ifs <;> decide
    | cameraStreaming1080p => split_ifs <;> decide
    | cameraStreaming4k => split_ifs <;> decide
    | _ => cases hcamera

theorem agrees_init (state audio rendering : String) : Agrees (init state audio rendering) := by
  have heq : init state audio rendering = Power.perform
      (Power.perform ({ (initState state).1 with mReady := true }, (initState state).2),
        (if audio = "AUDIO_LOW_LATENCY" then [.doHint .audioLowLatency none] else []) ++
          if rendering = "EXPENSIVE_RENDERING" then [.doHint .expensiveRendering none] else []) := by
    simp [init, Power.perform, foldl_append]
  rw [heq]
  refine (agrees_initState state).other ?_
  split_ifs <;> simp [Avoid, Call.hint?, Flagged, Hint.isMode, Hint.isCameraStreaming]

/-- **The hints of the modes and of the camera follow the flags.** In every run, one hint of a mode
is active if and only if a mode is on, and then it is the one for the modes that are on; among the
hints of the camera the one of its streaming mode is active, and none when the camera is off. -/
theorem hints_of_run {state audio rendering : String} {hist : List (Item Request Call)}
    (h : Run step (fun _ _ ↦ True) (init state audio rendering) hist s) :
    ((∃! hint : Hint, hint.isMode = true ∧ s.mHintManager hint = true) ↔
      s.mVRModeOn = true ∨ s.mSustainedPerfModeOn = true) ∧
    (∀ hint : Hint, hint.isMode = true →
      (s.mHintManager hint = true ↔ modeHint s.mVRModeOn s.mSustainedPerfModeOn = some hint)) ∧
    ∀ hint : Hint, hint.isCameraStreaming = true →
      (s.mHintManager hint = true ↔ cameraHint s.mCameraStreamingMode = some hint) := by
  have hagrees : Agrees s := by
    refine h.invariant (I := fun _ s ↦ Agrees s) (agrees_init state audio rendering) ?_
    intro hist s r s' calls hI _ hs
    obtain ⟨rfl, -⟩ := some_pair_inj hs
    exact hI.handle r
  refine ⟨⟨?_, fun hon ↦ ?_⟩, hagrees.mode, hagrees.camera⟩
  · rintro ⟨hint, ⟨hmode, hactive⟩, -⟩
    have hflags := (hagrees.mode hint hmode).mp hactive
    cases hv : s.mVRModeOn <;> cases hs : s.mSustainedPerfModeOn <;> simp [hv, hs, modeHint] at *
  · obtain ⟨hint, hflags, hmode⟩ : ∃ hint : Hint,
        modeHint s.mVRModeOn s.mSustainedPerfModeOn = some hint ∧ hint.isMode = true := by
      cases hv : s.mVRModeOn <;> cases hs : s.mSustainedPerfModeOn <;>
        simp [hv, hs, modeHint, Hint.isMode] at *
    refine ⟨hint, ⟨hmode, (hagrees.mode hint hmode).mpr hflags⟩, ?_⟩
    rintro hint' ⟨hmode', hactive'⟩
    exact Option.some_inj.mp (((hagrees.mode hint' hmode').mp hactive').symm.trans hflags)

/-- Both modes come, and the first one goes. -/
theorem hints_of_run_two_modes :
    ∃ hist s, Run step (fun _ _ ↦ True) (init "CAMERA_STREAMING" "" "") hist s ∧
      (s.mHintManager .sustainedPerformance = true ∧ s.mHintManager .vrMode = false ∧
        s.mHintManager .cameraStreaming = true) ∧
      (∃! hint : Hint, hint.isMode = true ∧ s.mHintManager hint = true) := by
  obtain ⟨hist, s, hrun, hend⟩ := Run.exists_of_runEvents step (fun _ _ ↦ True)
    (init "CAMERA_STREAMING" "" "")
    [.powerHint .vrMode 1, .powerHintAsync12 (.hint10 .sustainedPerformance) 1,
      .powerHint .vrMode 0]
    (fun _ s ↦ s.mHintManager .sustainedPerformance = true ∧ s.mHintManager .vrMode = false ∧
      s.mHintManager .cameraStreaming = true ∧ s.mSustainedPerfModeOn = true) (by decide +kernel)
  obtain ⟨hsustained, hvr, hcamera, hon⟩ := hend
  exact ⟨hist, s, hrun, ⟨hsustained, hvr, hcamera⟩, (hints_of_run hrun).1.mpr (Or.inr hon)⟩

end Power

/-! ## Requests for the hints that last until they are canceled -/

/-- The hint a request starts (`true`) or cancels (`false`). -/
def asked10 (hint : PowerHint10) (data : ℤ) : Option (Hint × Bool) :=
  match hint with
  | .launch => some (.launch, data ≠ 0)
  | _ => none

@[inherit_doc asked10]
def asked12 (hint : PowerHint12) (data : ℤ) : Option (Hint × Bool) :=
  match hint with
  | .audioLowLatency => some (.audioLowLatency, data ≠ 0)
  | .audioStreaming =>
    if data = 1 then some (.audioStreaming, true)
    else if data = 0 then some (.audioStreaming, false) else none
  | .cameraLaunch =>
    if data > 0 then some (.cameraLaunch, true)
    else if data = 0 then some (.cameraLaunch, false) else none
  | .cameraShot =>
    if data > 0 then some (.cameraShot, true)
    else if data = 0 then some (.cameraShot, false) else none
  | .cameraStreaming => none
  | .hint10 hint => asked10 hint data

@[inherit_doc asked10]
def Request.asked : Request → Option (Hint × Bool)
  | .powerHint hint data => asked10 hint data
  | .powerHintAsync12 hint data => asked12 hint data
  | .powerHintAsync13 .expensiveRendering data => some (.expensiveRendering, data > 0)
  | .powerHintAsync13 (.hint12 hint) data => asked12 hint data
  | .timeout _ => none

/-- What an item says about a hint: a request starts or cancels it, and the boost for the tear-down
of the camera starts it. -/
def about (hint : Hint) : Item Request Call → Option Bool
  | .event r =>
    match r.asked with
    | none => none
    | some (hint', start) => if hint' = hint then some start else none
  | .out (.doHint .cameraLaunch (some _)) => if hint = .cameraLaunch then some true else none
  | .out _ => none

/-- The hints that last until they are canceled. -/
def Hint.isCancelable : Hint → Bool
  | .launch | .audioLowLatency | .audioStreaming | .expensiveRendering | .cameraLaunch
  | .cameraShot => true
  | _ => false

/-- The hints that are ignored while a mode is on. -/
def Hint.isFiltered : Hint → Bool
  | .launch | .audioStreaming | .expensiveRendering => true
  | _ => false

namespace Power

variable {s : Power}

/-- A hint is not active if the last that was heard of it is that it is canceled. -/
def Canceled (s : Power) (hist : List (Item Request Call)) : Prop :=
  ∀ hint, latest (about hint) hist = some false → s.mHintManager hint = false

/-- A request that cancels a hint which is ignored while a mode is on comes while there is no mode,
or finds that the hint is not active. -/
def Heeded (s : Power) (r : Request) : Prop :=
  ∀ hint, r.asked = some (hint, false) → hint.isFiltered = true →
    s.ModeOn → s.mHintManager hint = false

instance (s : Power) (r : Request) : Decidable (s.Heeded r) :=
  match h : r.asked with
  | none => .isTrue fun hint heq ↦ by rw [h] at heq; cases heq
  | some (hint, start) =>
    have : Decidable s.ModeOn := inferInstanceAs (Decidable (_ ∨ _))
    decidable_of_iff (start = false → hint.isFiltered = true → s.ModeOn →
        s.mHintManager hint = false) <| by
      constructor
      · rintro himp hint' heq
        obtain ⟨rfl, rfl⟩ := some_pair_inj (h.symm.trans heq)
        exact himp rfl
      · rintro hheeded rfl
        exact hheeded hint h

/-- What a handler does for a request: the hints change by calls only, a hint that is asked for is
done or ended unless it is ignored, and no other hint that can be asked for is done, but for the
boost of the camera. -/
structure Handles (s : Power) (asked : Option (Hint × Bool)) (r : Power × List Call) : Prop where
  hints : r.1.mHintManager = s.mHintManager
  ready : r.1.mReady = s.mReady
  ignored : ∀ hint start, asked = some (hint, start) → hint.isFiltered = true → s.ModeOn →
    r.2 = []
  called : ∀ hint start, asked = some (hint, start) → ¬(hint.isFiltered = true ∧ s.ModeOn) →
    ∃ timeout, r.2 = [if start then .doHint hint timeout else .endHint hint]
  others : asked = none → ∀ hint timeout, .doHint hint timeout ∈ r.2 →
    hint.isCancelable = false ∨ hint = .cameraLaunch ∧ timeout = some 1000

theorem untilCanceled_eq (hint : Hint) (start : Bool) :
    untilCanceled hint start = [if start then .doHint hint none else .endHint hint] := by
  cases start <;> rfl

/-- Calls of a request that no hint is asked for with. -/
theorem Handles.of_none {r : Power × List Call} (hhints : r.1.mHintManager = s.mHintManager)
    (hready : r.1.mReady = s.mReady)
    (hothers : ∀ hint timeout, .doHint hint timeout ∈ r.2 →
      hint.isCancelable = false ∨ hint = .cameraLaunch ∧ timeout = some 1000) :
    Handles s none r where
  hints := hhints
  ready := hready
  ignored := fun _ _ h ↦ by cases h
  called := fun _ _ h ↦ by cases h
  others := fun _ ↦ hothers

variable {hint : Hint} {start : Bool} {calls : List Call} {hist : List (Item Request Call)}

/-- A hint that is not ignored. -/
theorem Handles.of_some (timeout : Option ℤ) (hfilter : hint.isFiltered = false)
    (hcalls : calls = [if start then .doHint hint timeout else .endHint hint]) :
    Handles s (some (hint, start)) (s, calls) where
  hints := rfl
  ready := rfl
  ignored := by
    rintro hint' start' heq hfiltered
    obtain ⟨rfl, rfl⟩ := some_pair_inj heq
    rw [hfilter] at hfiltered
    cases hfiltered
  called := by
    rintro hint' start' heq -
    obtain ⟨rfl, rfl⟩ := some_pair_inj heq
    exact ⟨timeout, hcalls⟩
  others := fun h ↦ by cases h

/-- A hint that is ignored while a mode is on. -/
theorem Handles.of_filtered (hfilter : hint.isFiltered = true) (hcalls : calls = untilCanceled hint start) :
    Handles s (some (hint, start)) (s, s.unlessMode calls) where
  hints := rfl
  ready := rfl
  ignored := fun _ _ _ _ hon ↦ unlessMode_of_modeOn hon calls
  called := by
    rintro hint' start' heq hnot
    obtain ⟨rfl, rfl⟩ := some_pair_inj heq
    refine ⟨none, ?_⟩
    dsimp only
    rw [unlessMode_of_not_modeOn fun hon ↦ hnot ⟨hfilter, hon⟩, hcalls, untilCanceled_eq]
  others := fun h ↦ by cases h

theorem handles_powerHint (hready : s.mReady = true) (hint : PowerHint10) (data : ℤ) :
    Handles s (asked10 hint data) (s.powerHint hint data) := by
  rw [powerHint.eq_def, if_neg (by rw [hready]; decide)]
  cases hint with
  | launch => exact .of_filtered rfl rfl
  | interaction =>
    refine .of_none rfl rfl fun hint timeout hmem ↦ ?_
    simpa using mem_of_mem_unlessMode hmem
  | sustainedPerformance =>
    refine .of_none rfl rfl fun hint timeout hmem ↦ ?_
    have havoid : Avoid Hint.isCancelable (switchMode data s.mSustainedPerfModeOn s.mVRModeOn
      .sustainedPerformance .vrMode).2 := avoid_switchMode rfl rfl rfl
    exact Or.inl (havoid _ hmem hint rfl)
  | vrMode =>
    refine .of_none rfl rfl fun hint timeout hmem ↦ ?_
    have havoid : Avoid Hint.isCancelable (switchMode data s.mVRModeOn s.mSustainedPerfModeOn
      .vrMode .sustainedPerformance).2 := avoid_switchMode rfl rfl rfl
    exact Or.inl (havoid _ hmem hint rfl)
  | lowPower => exact .of_none rfl rfl fun hint timeout hmem ↦ by simp at hmem
  | other _ => exact .of_none rfl rfl fun hint timeout hmem ↦ by cases hmem

theorem handles_powerHintAsync12 (hready : s.mReady = true) (hint : PowerHint12) (data : ℤ) :
    Handles s (asked12 hint data) (s.powerHintAsync12 hint data) := by
  rw [powerHintAsync12.eq_def, if_neg (by rw [hready]; decide)]
  cases hint with
  | hint10 hint => exact handles_powerHint hready hint data
  | audioLowLatency => exact .of_some none rfl (untilCanceled_eq _ _)
  | audioStreaming =>
    dsimp only [asked12, audioStreaming]
    split_ifs with hon hoff
    · exact .of_filtered rfl rfl
    · exact .of_filtered rfl rfl
    all_goals
      refine .of_none rfl rfl fun hint timeout hmem ↦ ?_
      have hmem := mem_of_mem_unlessMode hmem
      simp_all [Hint.isCancelable]
  | cameraLaunch =>
    dsimp only [asked12]
    split_ifs with hon hoff
    · exact .of_some none rfl rfl
    · exact .of_some none rfl rfl
    · exact .of_none rfl rfl fun hint timeout hmem ↦ by cases hmem
  | cameraShot =>
    dsimp only [asked12]
    split_ifs with hon hoff
    · exact .of_some (some data) rfl rfl
    · exact .of_some none rfl rfl
    · exact .of_none rfl rfl fun hint timeout hmem ↦ by cases hmem
  | cameraStreaming =>
    dsimp only [asked12]
    split
    · exact .of_none rfl rfl fun hint timeout hmem ↦ by cases hmem
    · next mode _ =>
      split
      · exact .of_none rfl rfl fun hint timeout hmem ↦ by cases hmem
      · refine .of_none rfl rfl fun hint timeout hmem ↦ ?_
        have hcam : (kCamStreamingHint mode).isCancelable = false := by cases mode <;> rfl
        dsimp only at hmem
        rw [switchCamera] at hmem
        split_ifs at hmem <;> simp at hmem <;> grind

theorem handles (hready : s.mReady = true) (r : Request) : Handles s r.asked (s.handle r) := by
  cases r with
  | powerHint hint data => exact handles_powerHint hready hint data
  | powerHintAsync12 hint data => exact handles_powerHintAsync12 hready hint data
  | powerHintAsync13 hint data =>
    rw [handle, powerHintAsync13.eq_def, if_neg (by rw [hready]; decide)]
    cases hint with
    | hint12 hint => exact handles_powerHintAsync12 hready hint data
    | expensiveRendering => exact .of_filtered rfl rfl
  | timeout hint =>
    refine .of_none rfl rfl fun hint' timeout hmem ↦ ?_
    rw [handle] at hmem
    split at hmem <;> simp at hmem

/-- A hint that is not done is active after some calls only if it was before them. -/
theorem active_of_foldl_apply (h : ∀ timeout, .doHint hint timeout ∉ calls) {active : Hint → Bool}
    (hactive : calls.foldl Call.apply active hint = true) : active hint = true := by
  induction calls generalizing active with
  | nil => exact hactive
  | cons c calls ih =>
    rw [foldl_cons] at hactive
    have hc := ih (fun timeout hmem ↦ h timeout (mem_cons_of_mem _ hmem)) hactive
    cases c with
    | doHint hint' timeout =>
      have hne : hint ≠ hint' := by
        rintro rfl
        exact h timeout mem_cons_self
      rwa [Call.apply, Function.update_of_ne hne] at hc
    | endHint hint' =>
      by_cases heq : hint = hint'
      · rw [heq, Call.apply, Function.update_self] at hc
        cases hc
      · rwa [Call.apply, Function.update_of_ne heq] at hc
    | acquire _ => exact hc
    | setDisplayLpm _ => exact hc
    | setProperty _ => exact hc

/-- A call says that a hint is started, or nothing. -/
theorem about_out_ne (hint : Hint) (c : Call) : about hint (.out c) ≠ some false := by
  intro heq
  cases c with
  | doHint hint' timeout => cases hint' <;> cases timeout <;> simp [about] at heq
  | _ => cases heq

/-- When a cancel is the last that was heard of a hint after a request, the camera was not boosted by
it, and the cancel is this request or came before it. -/
theorem latest_about_entry {r : Request} (h : latest (about hint) (hist ++ entry r calls) = some false) :
    (∀ timeout, hint = .cameraLaunch → .doHint .cameraLaunch (some timeout) ∉ calls) ∧
      (about hint (.event r)).or (latest (about hint) hist) = some false := by
  rw [append_entry, latest_append] at h
  cases hout : latest (about hint) (calls.map Item.out) with
  | none =>
    rw [hout, Option.none_or, latest_concat] at h
    refine ⟨?_, h⟩
    rintro timeout rfl hmem
    have hnone := findSome?_eq_none_iff.mp hout (.out (.doHint .cameraLaunch (some timeout)))
      (mem_reverse.mpr (mem_map_of_mem hmem))
    cases hnone
  | some start =>
    rw [hout, Option.some_or] at h
    obtain ⟨x, hx, heq⟩ := exists_of_findSome?_eq_some (hout.trans h)
    obtain ⟨c, -, rfl⟩ := mem_map.mp (mem_reverse.mp hx)
    exact absurd heq (about_out_ne hint c)

theorem about_event {r : Request} :
    about hint (.event r) = some start ↔ r.asked = some (hint, start) := by
  simp only [about]
  split
  · next h => simp [h]
  · next hint' start' h =>
    rw [h]
    split
    · next heq => simp [heq]
    · next hne => simp [hne]

theorem isCancelable_of_asked {r : Request}
    (h : r.asked = some (hint, start)) : hint.isCancelable = true := by
  have h10 : ∀ hint10 data, asked10 hint10 data = some (hint, start) →
      hint.isCancelable = true := by
    intro hint10 data h
    cases hint10 with
    | launch => obtain ⟨rfl, -⟩ := some_pair_inj h; rfl
    | _ => cases h
  have h12 : ∀ hint12 data, asked12 hint12 data = some (hint, start) →
      hint.isCancelable = true := by
    intro hint12 data h
    cases hint12 with
    | hint10 hint10 => exact h10 hint10 data h
    | _ =>
      simp only [asked12] at h
      grind [Hint.isCancelable]
  cases r with
  | powerHint hint10 data => exact h10 hint10 data h
  | powerHintAsync12 hint12 data => exact h12 hint12 data h
  | powerHintAsync13 hint13 data =>
    cases hint13 with
    | hint12 hint12 => exact h12 hint12 data h
    | expensiveRendering => obtain ⟨rfl, -⟩ := some_pair_inj h; rfl
  | timeout _ => cases h

/-- A hint that was canceled can be. -/
theorem isCancelable_of_latest
    (h : latest (about hint) hist = some false) : hint.isCancelable = true := by
  obtain ⟨x, -, heq⟩ := exists_of_findSome?_eq_some h
  cases x with
  | event r => exact isCancelable_of_asked (about_event.mp heq)
  | out c => exact absurd heq (about_out_ne hint c)

/-- A hint that is not asked for is done for the boost of the camera only. -/
theorem Handles.doHint_mem {asked : Option (Hint × Bool)} {r : Power × List Call}
    (h : Handles s asked r) (hasked : ∀ start, asked ≠ some (hint, start))
    {timeout : Option ℤ} (hmem : .doHint hint timeout ∈ r.2) :
    hint.isCancelable = false ∨ hint = .cameraLaunch ∧ timeout = some 1000 := by
  cases asked with
  | none => exact h.others rfl hint timeout hmem
  | some asked =>
    obtain ⟨hint', start⟩ := asked
    by_cases hfilter : hint'.isFiltered = true ∧ s.ModeOn
    · rw [h.ignored hint' start rfl hfilter.1 hfilter.2] at hmem
      cases hmem
    · obtain ⟨timeout', hcalls⟩ := h.called hint' start rfl hfilter
      rw [hcalls, mem_singleton] at hmem
      cases start with
      | true =>
        obtain ⟨rfl, -⟩ := Call.doHint.inj hmem
        exact absurd rfl (hasked true)
      | false => cases hmem

/-- One request keeps the hints canceled if and only if it meets the condition. -/
theorem canceled_entry_iff (hready : s.mReady = true) (h : s.Canceled hist) (r : Request) :
    (perform (s.handle r)).Canceled (hist ++ entry r (s.handle r).2) ↔ s.Heeded r := by
  have hhandles := handles hready r
  constructor
  · intro hcanceled hint hasked hfilter hon
    have hcalls := hhandles.ignored hint false hasked hfilter hon
    have hinactive := hcanceled hint
    rw [perform_mHintManager, hcalls, foldl_nil, hhandles.hints] at hinactive
    refine hinactive ?_
    rw [entry, map_nil, latest_concat, about_event.mpr hasked, Option.some_or]
  · intro hheeded hint hlatest
    obtain ⟨hboost, hor⟩ := latest_about_entry hlatest
    rw [perform_mHintManager, hhandles.hints]
    by_contra hactive
    rw [Bool.not_eq_false] at hactive
    cases habout : about hint (.event r) with
    | some start =>
      rw [habout, Option.some_or] at hor
      obtain rfl := Option.some_inj.mp hor
      have hasked := about_event.mp habout
      by_cases hfilter : hint.isFiltered = true ∧ s.ModeOn
      · rw [hhandles.ignored hint false hasked hfilter.1 hfilter.2, foldl_nil,
          hheeded hint hasked hfilter.1 hfilter.2] at hactive
        cases hactive
      · obtain ⟨timeout, hcalls⟩ := hhandles.called hint false hasked hfilter
        simp [hcalls, Call.apply] at hactive
    | none =>
      rw [habout, Option.none_or] at hor
      have hnot : ∀ timeout, .doHint hint timeout ∉ (s.handle r).2 := by
        intro timeout hmem
        have hasked : ∀ start, r.asked ≠ some (hint, start) := by
          intro start heq
          rw [about_event.mpr heq] at habout
          cases habout
        rcases hhandles.doHint_mem hasked hmem with hcancel | ⟨rfl, rfl⟩
        · rw [isCancelable_of_latest hor] at hcancel
          cases hcancel
        · exact hboost 1000 rfl hmem
      have hbefore := active_of_foldl_apply hnot hactive
      rw [h hint hor] at hbefore
      cases hbefore

theorem init_mReady (state audio rendering : String) :
    (init state audio rendering).mReady = true := rfl

/-- **A hint that was canceled is not active** in any run whose requests meet the condition, and the
condition cannot be done without: after such a run, the hints are still canceled after one more
request if and only if it meets the condition. -/
theorem canceled_of_run {state audio rendering : String} {hist : List (Item Request Call)}
    (h : Run step Heeded (init state audio rendering) hist s) :
    s.Canceled hist ∧ ∀ r s' calls, s.step r = some (s', calls) →
      (s'.Canceled (hist ++ entry r calls) ↔ s.Heeded r) := by
  have hinv := h.invariant (I := fun hist s ↦ s.mReady = true ∧ s.Canceled hist)
    ⟨init_mReady .., fun hint hlatest ↦ by cases hlatest⟩ ?_
  · refine ⟨hinv.2, fun r s' calls hs ↦ ?_⟩
    obtain ⟨rfl, rfl⟩ := some_pair_inj hs
    exact canceled_entry_iff hinv.1 hinv.2 r
  · rintro hist s r s' calls ⟨hready, hcanceled⟩ hg hs
    obtain ⟨rfl, rfl⟩ := some_pair_inj hs
    refine ⟨?_, (canceled_entry_iff hready hcanceled r).mpr hg⟩
    rw [perform_mReady, (handles hready r).ready, hready]

/-- Hints are started and canceled, one of them before a mode comes and one while it is on. -/
theorem canceled_of_run_launch :
    ∃ hist s, Run step Heeded (init "" "AUDIO_LOW_LATENCY" "") hist s ∧
      (latest (about .launch) hist = some false ∧ s.mVRModeOn = true ∧
        latest (about .audioLowLatency) hist = some false) ∧ s.Canceled hist := by
  obtain ⟨hist, s, hrun, hend⟩ := Run.exists_of_runEvents step Heeded
    (init "" "AUDIO_LOW_LATENCY" "")
    [.powerHint .launch 1, .powerHintAsync13 (.hint12 (.hint10 .launch)) 0, .powerHint .vrMode 1,
      .powerHintAsync12 .audioLowLatency 0]
    (fun hist s ↦ latest (about .launch) hist = some false ∧ s.mVRModeOn = true ∧
      latest (about .audioLowLatency) hist = some false) (by decide +kernel)
  exact ⟨hist, s, hrun, hend, (canceled_of_run hrun).1⟩

/-- `LAUNCH` is started, VR mode is switched on, and `LAUNCH` is canceled. -/
theorem not_canceled :
    ¬∀ state audio rendering hist s,
      Run step (fun _ _ ↦ True) (init state audio rendering) hist s → s.Canceled hist := by
  intro hall
  obtain ⟨hist, s, hrun, hend⟩ := Run.exists_of_runEvents step (fun _ _ ↦ True) (init "" "" "")
    [.powerHint .launch 1, .powerHint .vrMode 1, .powerHint .launch 0]
    (fun hist s ↦ latest (about .launch) hist = some false ∧ s.mHintManager .launch = true)
    (by decide +kernel)
  have hinactive := hall _ _ _ hist s hrun .launch hend.1
  rw [hend.2] at hinactive
  cases hinactive

end Power

end MataDevice.Hints
