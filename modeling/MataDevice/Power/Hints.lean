import MataDevice.Lib.History

/-!
# The power hints

`Power` gets hints of the framework and passes them on to a `HintManager`, which is kept here as the
set of the hints that were done and have not been ended. Two modes, VR and sustained performance,
have a hint each and a third one for both together; while one of them is on, some other hints are
ignored. The camera has a streaming mode with a hint of its own.

The state the modes start in is read from properties when the service starts. Hints that were done
for a time run out on their own.
-/

namespace MataDevice.Hints

/-- The hints of the `HintManager`. -/
inductive Hint
  | vrMode
  | sustainedPerformance
  | vrSustainedPerformance
  | cameraStreamingOff
  | cameraStreaming
  | cameraStreaming1080p
  | cameraStreaming4k
  | launch
  | audioLowLatency
  | audioStreaming
  | tpuBoost
  | cameraLaunch
  | cameraShot
  | expensiveRendering
  deriving DecidableEq, Repr

/-- `PowerHint_1_0`, with the hints that are not handled in one case. -/
inductive PowerHint10
  | interaction
  | sustainedPerformance
  | vrMode
  | launch
  | lowPower
  | other (value : ℤ)
  deriving DecidableEq, Repr

/-- `PowerHint_1_2`. -/
inductive PowerHint12
  | hint10 (hint : PowerHint10)
  | audioStreaming
  | audioLowLatency
  | cameraLaunch
  | cameraStreaming
  | cameraShot
  deriving DecidableEq, Repr

/-- `PowerHint_1_3`. -/
inductive PowerHint13
  | hint12 (hint : PowerHint12)
  | expensiveRendering
  deriving DecidableEq, Repr

inductive CameraStreamingMode
  | off
  | streaming
  | streaming1080p
  | streaming4k
  deriving DecidableEq, Repr

/-- The mode with a value, unless it is `CAMERA_STREAMING_MAX` or out of the range. -/
def CameraStreamingMode.ofData (data : ℤ) : Option CameraStreamingMode :=
  if data = 0 then some .off
  else if data = 1 then some .streaming
  else if data = 2 then some .streaming1080p
  else if data = 3 then some .streaming4k
  else none

def kCamStreamingHint : CameraStreamingMode → Hint
  | .off => .cameraStreamingOff
  | .streaming => .cameraStreaming
  | .streaming1080p => .cameraStreaming1080p
  | .streaming4k => .cameraStreaming4k

/-- What the service calls. Times are in milliseconds. -/
inductive Call
  | doHint (hint : Hint) (timeout : Option ℤ)
  | endHint (hint : Hint)
  /-- of the interaction handler -/
  | acquire (data : ℤ)
  | setDisplayLpm (enable : Bool)
  /-- of `vendor.powerhal.state`; the empty text is `none` -/
  | setProperty (hint : Option Hint)
  deriving DecidableEq, Repr

structure Power where
  mHintManager : Hint → Bool
  mVRModeOn : Bool
  mSustainedPerfModeOn : Bool
  mCameraStreamingMode : CameraStreamingMode
  mReady : Bool

inductive Request
  | powerHint (hint : PowerHint10) (data : ℤ)
  | powerHintAsync12 (hint : PowerHint12) (data : ℤ)
  | powerHintAsync13 (hint : PowerHint13) (data : ℤ)
  /-- A hint that was done for a time runs out. -/
  | timeout (hint : Hint)
  deriving DecidableEq, Repr

/-- The set of hints of the `HintManager` after a call. -/
def Call.apply (active : Hint → Bool) : Call → Hint → Bool
  | .doHint hint _ => Function.update active hint true
  | .endHint hint => Function.update active hint false
  | .acquire _ | .setDisplayLpm _ | .setProperty _ => active

namespace Power

variable (s : Power)

/-- A mode that is switched on or off: whether it is on, and the calls. The hint of the mode gives
way to the one for both modes while the other mode is on. -/
def switchMode (data : ℤ) (on otherOn : Bool) (hint otherHint : Hint) : Bool × List Call :=
  if data ≠ 0 ∧ on = false then
    (true,
      if otherOn = false then [.doHint hint none]
      else [.endHint otherHint, .doHint .vrSustainedPerformance none])
  else if data = 0 ∧ on = true then
    (false,
      [.endHint .vrSustainedPerformance, .endHint hint] ++
        if otherOn then [.doHint otherHint none] else [])
  else (on, [])

/-- A hint that lasts until it is canceled. -/
def untilCanceled (hint : Hint) (start : Bool) : List Call :=
  if start then [.doHint hint none] else [.endHint hint]

/-- The hints that are ignored while another mode is on. -/
def unlessMode (calls : List Call) : List Call :=
  if s.mVRModeOn ∨ s.mSustainedPerfModeOn then [] else calls

def powerHint (hint : PowerHint10) (data : ℤ) : Power × List Call :=
  if s.mReady = false then (s, [])
  else
    match hint with
    | .interaction => (s, s.unlessMode [.acquire data])
    | .sustainedPerformance =>
      let (on, calls) :=
        switchMode data s.mSustainedPerfModeOn s.mVRModeOn .sustainedPerformance .vrMode
      ({ s with mSustainedPerfModeOn := on }, calls)
    | .vrMode =>
      let (on, calls) :=
        switchMode data s.mVRModeOn s.mSustainedPerfModeOn .vrMode .sustainedPerformance
      ({ s with mVRModeOn := on }, calls)
    | .launch => (s, s.unlessMode (untilCanceled .launch (data ≠ 0)))
    | .lowPower => (s, [.setDisplayLpm (data ≠ 0)])
    | .other _ => (s, [])

/-- The branch of `AUDIO_STREAMING` without another mode. -/
def audioStreaming (data : ℤ) : List Call :=
  if data = 1 then [.doHint .audioStreaming none]
  else if data = 0 then [.endHint .audioStreaming]
  else if data = 1001 then [.doHint .tpuBoost (some 200)]
  else if data = 1002 then [.doHint .tpuBoost (some 2000)]
  else if data = 1000 then [.endHint .tpuBoost]
  else []

/-- The branch of `CAMERA_STREAMING`, for a mode that is valid and new. -/
def switchCamera (mode : CameraStreamingMode) : List Call :=
  (if s.mCameraStreamingMode ≠ .off then
    [.endHint (kCamStreamingHint s.mCameraStreamingMode), .doHint .cameraLaunch (some 1000)]
    else []) ++
  (if mode ≠ .off then [.doHint (kCamStreamingHint mode) none] else []) ++
  [.setProperty (if mode = .off then none else some (kCamStreamingHint mode))]

def powerHintAsync12 (hint : PowerHint12) (data : ℤ) : Power × List Call :=
  if s.mReady = false then (s, [])
  else
    match hint with
    | .audioLowLatency => (s, untilCanceled .audioLowLatency (data ≠ 0))
    | .audioStreaming => (s, s.unlessMode (audioStreaming data))
    | .cameraLaunch =>
      (s, if data > 0 then [.doHint .cameraLaunch none]
        else if data = 0 then [.endHint .cameraLaunch] else [])
    | .cameraStreaming =>
      match CameraStreamingMode.ofData data with
      | none => (s, [])
      | some mode =>
        if s.mCameraStreamingMode = mode then (s, [])
        else ({ s with mCameraStreamingMode := mode }, s.switchCamera mode)
    | .cameraShot =>
      (s, if data > 0 then [.doHint .cameraShot (some data)]
        else if data = 0 then [.endHint .cameraShot] else [])
    | .hint10 hint => s.powerHint hint data

def powerHintAsync13 (hint : PowerHint13) (data : ℤ) : Power × List Call :=
  if s.mReady = false then (s, [])
  else
    match hint with
    | .expensiveRendering => (s, s.unlessMode (untilCanceled .expensiveRendering (data > 0)))
    | .hint12 hint => s.powerHintAsync12 hint data

/-- The hints that are done for a time. -/
def timed : Hint → Bool
  | .tpuBoost | .cameraLaunch | .cameraShot => true
  | _ => false

def handle : Request → Power × List Call
  | .powerHint hint data => s.powerHint hint data
  | .powerHintAsync12 hint data => s.powerHintAsync12 hint data
  | .powerHintAsync13 hint data => s.powerHintAsync13 hint data
  | .timeout hint => (s, if timed hint then [.endHint hint] else [])

/-- The `HintManager` gets the calls. -/
def perform (r : Power × List Call) : Power :=
  { r.1 with mHintManager := r.2.foldl Call.apply r.1.mHintManager }

def step (r : Request) : Option (Power × List Call) :=
  some (perform (s.handle r), (s.handle r).2)

/-- The constructor of `Power`. -/
def new : Power where
  mHintManager := fun _ ↦ false
  mVRModeOn := false
  mSustainedPerfModeOn := false
  mCameraStreamingMode := .off
  mReady := false

/-- What the init thread makes of `vendor.powerhal.state`. -/
def initState (state : String) : Power × List Call :=
  if state = "CAMERA_STREAMING" then
    ({ new with mCameraStreamingMode := .streaming }, [.doHint .cameraStreaming none])
  else if state = "CAMERA_STREAMING_1080P" then
    ({ new with mCameraStreamingMode := .streaming1080p }, [.doHint .cameraStreaming1080p none])
  else if state = "CAMERA_STREAMING_4K" then
    ({ new with mCameraStreamingMode := .streaming4k }, [.doHint .cameraStreaming4k none])
  else if state = "SUSTAINED_PERFORMANCE" then
    ({ new with mSustainedPerfModeOn := true }, [.doHint .sustainedPerformance none])
  else if state = "VR_MODE" then ({ new with mVRModeOn := true }, [.doHint .vrMode none])
  else if state = "VR_SUSTAINED_PERFORMANCE" then
    ({ new with mSustainedPerfModeOn := true, mVRModeOn := true },
      [.doHint .vrSustainedPerformance none])
  else (new, [])

/-- The state in which the init thread starts to take hints, for the values of the three
properties. -/
def init (state audio rendering : String) : Power :=
  let (s, calls) := initState state
  perform ({ s with mReady := true },
    calls ++ (if audio = "AUDIO_LOW_LATENCY" then [.doHint .audioLowLatency none] else []) ++
      if rendering = "EXPENSIVE_RENDERING" then [.doHint .expensiveRendering none] else [])

end Power

end MataDevice.Hints
