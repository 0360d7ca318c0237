import Mathlib.Data.List.Basic
import Mathlib.Tactic

/-!
# The lights

The service keeps the last state of every type of light in `backends`, which is sorted by importance.
A call shows the first lit state among the types that share its handler, or its own state if none of
them is lit. A handler writes to files of the LEDs, and a file holds what was written to it last.
-/

namespace MataDevice.Light

open List

/-- The types that have a backend, and all other ids -/
inductive LightType
  | attention | notifications | battery | backlight
  | unsupported
  deriving DecidableEq

inductive FlashMode
  | none | timed | hardware
  deriving DecidableEq

/-- The bits of the color are AARRGGBB. -/
structure HwLightState where
  color : UInt32
  flashMode : FlashMode
  flashOnMs : ℤ
  flashOffMs : ℤ
  deriving DecidableEq

inductive Led
  | red | green | blue
  deriving DecidableEq

inductive File
  | lcdBrightness
  | rgbBlink
  | brightness (led : Led)
  | startIdx (led : Led)
  | dutyPcts (led : Led)
  | pauseLo (led : Led)
  | pauseHi (led : Led)
  | rampStepMs (led : Led)
  deriving DecidableEq

/-- The text of a number, or of numbers with commas between them -/
inductive Text
  | int (n : ℤ)
  | ramp (dutyPcts : List UInt32)
  deriving DecidableEq

abbrev Write := File × Text

/-! ## The handlers -/

def brightnessRamp : List UInt32 := [0, 12, 25, 37, 50, 72, 85, 100]

def getScaledRamp (brightness : UInt32) : Text := .ramp (brightnessRamp.map (· * brightness / 0xFF))

def handleBacklight (state : HwLightState) : List Write :=
  [(.lcdBrightness, .int (state.color &&& 0xFF).toNat)]

def handleNotification (state : HwLightState) : List Write :=
  let brightness := state.color >>> 24 &&& 0xFF
  let scaled (b : UInt32) : UInt32 :=
    if brightness > 0 ∧ brightness < 255 then b * brightness / 0xFF else b
  let leds := [(Led.red, scaled (state.color >>> 16 &&& 0xFF)),
    (.green, scaled (state.color >>> 8 &&& 0xFF)), (.blue, scaled (state.color &&& 0xFF))]
  (.rgbBlink, .int 0) ::
    if state.flashMode = .timed then
      let pauseHi := state.flashOnMs - 50 * 8 * 2
      -- the steps are shortened where the ramps would not fit
      let stepDuration := if pauseHi < 0 then state.flashOnMs.tdiv (8 * 2) else 50
      leds.zipIdx.flatMap (fun ((led, b), i) ↦
        [(.startIdx led, .int (i * 8)), (.dutyPcts led, getScaledRamp b),
          (.pauseLo led, .int state.flashOffMs), (.pauseHi led, .int (max pauseHi 0)),
          (.rampStepMs led, .int stepDuration)]) ++ [(.rgbBlink, .int 1)]
    else leds.map fun (led, b) ↦ (.brightness led, .int b.toNat)

inductive LightStateHandler
  | handleNotification | handleBacklight
  deriving DecidableEq

def LightStateHandler.writes : LightStateHandler → HwLightState → List Write
  | handleNotification => Light.handleNotification
  | handleBacklight => Light.handleBacklight

/-! ## The service -/

structure LightBackend where
  type : LightType
  state : HwLightState
  handler : LightStateHandler
  deriving DecidableEq

def isLit (state : HwLightState) : Bool := state.color &&& 0x00ffffff ≠ 0

/-- In the order of importance -/
def backends (state : LightType → HwLightState) : List LightBackend :=
  [⟨.attention, state .attention, .handleNotification⟩,
    ⟨.notifications, state .notifications, .handleNotification⟩,
    ⟨.battery, state .battery, .handleNotification⟩,
    ⟨.backlight, state .backlight, .handleBacklight⟩]

/-- `none` if the operation is not supported, in which case no state is changed. -/
def setLightState (backends : List LightBackend) (type : LightType) (state : HwLightState) :
    Option (List LightBackend × List Write) :=
  let updated := backends.map fun backend ↦
    if backend.type = type then { backend with state } else backend
  ((backends.filter (·.type = type)).getLast?).map fun found ↦
    match updated.find? fun backend ↦ found.handler = backend.handler && isLit backend.state with
    | some backend => (updated, found.handler.writes backend.state)
    | none => (updated, found.handler.writes state)

abbrev Files := File → Option Text

def execute (files : Files) (writes : List Write) : Files :=
  writes.foldl (fun files w ↦ Function.update files w.1 (some w.2)) files

structure Lights where
  backends : List LightBackend
  files : Files

def HwLightState.initial : HwLightState := ⟨0xff000000, .none, 0, 0⟩

namespace Lights

/-- Nothing has been written yet. -/
def init : Lights := ⟨Light.backends fun _ ↦ .initial, fun _ ↦ none⟩

def step (s : Lights) (call : LightType × HwLightState) : Lights :=
  match setLightState s.backends call.1 call.2 with
  | some (backends, writes) => ⟨backends, execute s.files writes⟩
  | none => s

def run (calls : List (LightType × HwLightState)) : Lights := calls.foldl step init

end Lights

/-! ## What is to be shown -/

section

variable (calls : List (LightType × HwLightState))

/-- The state that one of the types was set to last -/
def lastAmong (types : List LightType) : Option HwLightState :=
  ((calls.filter (·.1 ∈ types)).getLast?).map Prod.snd

def lastOf (type : LightType) : HwLightState := (lastAmong calls [type]).getD .initial

def rgbTypes : List LightType := [.attention, .notifications, .battery]

/-- The RGB LED is for the most important type that is lit; a type that goes out when none is lit
leaves its own state. -/
def rgbState : Option HwLightState :=
  ((rgbTypes.map (lastOf calls)).find? isLit).or (lastAmong calls rgbTypes)

end

variable {calls : List (LightType × HwLightState)} {type : LightType} {state : HwLightState}
  {files : Files} {writes : List Write} {f : File}

theorem lastAmong_concat (types : List LightType) : lastAmong (calls ++ [(type, state)]) types =
    if type ∈ types then some state else lastAmong calls types := by
  rw [lastAmong, filter_append]
  split_ifs with h
  · simp [h]
  · simp [h, lastAmong]

theorem lastOf_concat (t : LightType) :
    lastOf (calls ++ [(type, state)]) t = if t = type then state else lastOf calls t := by
  simp only [lastOf, lastAmong_concat, mem_singleton, eq_comm (a := t)]
  split_ifs <;> rfl

/-- A file has what was written to it last, or what it had. -/
theorem execute_apply (files : Files) (writes : List Write) (f : File) :
    execute files writes f = (execute (fun _ ↦ none) writes f).or (files f) := by
  induction writes using List.reverseRecOn with
  | nil => rfl
  | append_singleton writes w ih =>
    rw [execute, execute, foldl_concat, foldl_concat, ← execute, ← execute, Function.update_apply,
      Function.update_apply]
    split_ifs
    · rfl
    · exact ih

theorem execute_of_not_mem (h : f ∉ writes.map Prod.fst) : execute files writes f = files f := by
  induction writes generalizing files with
  | nil => rfl
  | cons w writes ih =>
    rw [map_cons, mem_cons, not_or] at h
    rw [execute, foldl_cons, ← execute, ih h.2, Function.update_of_ne h.1]

theorem lcdBrightness_not_mem (state : HwLightState) :
    .lcdBrightness ∉ (handleNotification state).map Prod.fst := by
  rw [handleNotification]
  split_ifs <;> simp [zipIdx]

theorem map_backends (last : LightType → HwLightState) :
    (backends last).map (fun b ↦ if b.type = type then { b with state } else b) =
      backends fun t ↦ if t = type then state else last t := by
  simp only [backends, map_cons, map_nil]
  cases type <;> rfl

theorem find?_backends (last : LightType → HwLightState) :
    ((backends last).find? fun b ↦
      LightStateHandler.handleNotification = b.handler && isLit b.state).map LightBackend.state =
      (rgbTypes.map last).find? isLit := by
  simp only [backends, rgbTypes, map_cons, map_nil, find?]
  cases isLit (last .attention) <;> cases isLit (last .notifications) <;>
    cases isLit (last .battery) <;> rfl

/-- A call for the RGB LED shows what is then to be shown. -/
theorem setLightState_of_mem (calls : List (LightType × HwLightState)) (state : HwLightState)
    (h : type ∈ rgbTypes) :
    ∃ shown, rgbState (calls ++ [(type, state)]) = some shown ∧
      setLightState (backends (lastOf calls)) type state =
        some (backends (lastOf (calls ++ [(type, state)])), handleNotification shown) := by
  have hlast : lastOf (calls ++ [(type, state)]) =
      fun t ↦ if t = type then state else lastOf calls t := funext lastOf_concat
  have hfind := find?_backends (lastOf (calls ++ [(type, state)]))
  have hhandler : ((backends (lastOf calls)).filter (·.type = type)).getLast?.map
      LightBackend.handler = some .handleNotification := by
    simp only [rgbTypes, mem_cons, not_mem_nil, or_false] at h
    rcases h with rfl | rfl | rfl <;> rfl
  obtain ⟨backend, hbackend, hhandler⟩ := Option.map_eq_some_iff.mp hhandler
  rw [setLightState, map_backends, ← hlast, hbackend, Option.map_some, hhandler]
  rw [rgbState, lastAmong_concat, if_pos h, ← hfind]
  cases (backends (lastOf (calls ++ [(type, state)]))).find? fun b ↦
      LightStateHandler.handleNotification = b.handler && isLit b.state with
  | none => exact ⟨state, rfl, rfl⟩
  | some b => exact ⟨b.state, rfl, rfl⟩

theorem setLightState_backlight : setLightState (backends (lastOf calls)) .backlight state =
    some (backends (lastOf (calls ++ [(.backlight, state)])), handleBacklight state) := by
  have hlast : lastOf (calls ++ [(.backlight, state)]) =
      fun t ↦ if t = .backlight then state else lastOf calls t := funext lastOf_concat
  rw [setLightState, map_backends, hlast]
  simp only [backends, filter, find?]
  cases hlit : isLit state <;> simp [hlit, LightStateHandler.writes]

/-- The states are those of the last calls, and the files show what is to be shown. -/
structure Shows (calls : List (LightType × HwLightState)) (s : Lights) : Prop where
  backends : s.backends = Light.backends (lastOf calls)
  lcd : s.files .lcdBrightness =
    (lastAmong calls [.backlight]).map fun state ↦ .int (state.color &&& 0xFF).toNat
  rgb : ∀ f text, (rgbState calls).bind (fun state ↦
    execute (fun _ ↦ none) (handleNotification state) f) = some text → s.files f = some text

theorem rgbState_concat (calls : List (LightType × HwLightState)) (state : HwLightState)
    (h : type ∉ rgbTypes) : rgbState (calls ++ [(type, state)]) = rgbState calls := by
  rw [rgbState, lastAmong_concat, if_neg h, rgbState]
  congr 2
  refine map_congr_left fun t ht ↦ ?_
  rw [lastOf_concat, if_neg]
  rintro rfl
  exact h ht

theorem Shows.step {s : Lights} (h : Shows calls s) (call : LightType × HwLightState) :
    Shows (calls ++ [call]) (s.step call) := by
  obtain ⟨type, state⟩ := call
  rw [Lights.step, h.backends]
  by_cases hmem : type ∈ rgbTypes
  · obtain ⟨shown, hshown, hset⟩ := setLightState_of_mem calls state hmem
    have hne : type ∉ [LightType.backlight] := by
      rw [mem_singleton]
      rintro rfl
      exact absurd hmem (by decide)
    rw [hset]
    dsimp only
    refine ⟨rfl, ?_, fun f text hf ↦ ?_⟩
    · rw [lastAmong_concat, if_neg hne]
      exact (execute_of_not_mem (lcdBrightness_not_mem shown)).trans h.lcd
    · rw [hshown, Option.bind_some] at hf
      exact (execute_apply ..).trans (by rw [hf, Option.some_or])
  · have hrgb := rgbState_concat calls state hmem
    cases type with
    | attention | notifications | battery => exact absurd (by decide) hmem
    | backlight =>
      rw [setLightState_backlight]
      refine ⟨rfl, by rw [lastAmong_concat, if_pos mem_cons_self]; rfl, fun f text hf ↦ ?_⟩
      rw [hrgb] at hf
      have hne : f ≠ .lcdBrightness := by
        rintro rfl
        obtain ⟨shown, -, hf⟩ := Option.bind_eq_some_iff.mp hf
        rw [execute_of_not_mem (lcdBrightness_not_mem shown)] at hf
        cases hf
      exact (execute_of_not_mem (by simpa [handleBacklight] using hne)).trans (h.rgb f text hf)
    | unsupported =>
      refine ⟨h.backends.trans ?_, ?_, by rw [hrgb]; exact h.rgb⟩
      · rw [funext lastOf_concat]
        rfl
      · rw [lastAmong_concat]
        exact h.lcd

end MataDevice.Light
