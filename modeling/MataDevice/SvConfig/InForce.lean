import MataDevice.Lib.History
import MataDevice.SvConfig.Masks

/-!
# The constellation settings that are in force

`GnssAdapter` keeps the constellations that are enabled and blacklisted in `mGnssSvTypeConfig` and
the blacklisted SVs in `mGnssSvIdConfig`, and sends them to the modem with three commands and after
each restart of the modem. Constellations are enabled by the constellation control. They are turned
off in one of two ways: `gnssSvTypeConfigUpdate` blacklists all their SVs, which there is no mask
for in the case of GPS, and `gnssUpdateSvConfig` uses the constellation control again.

The settings are not always in force after a command. `gnssUpdateSvConfig` sends the constellation
control before it stores the new configuration, and so sends the old one. `System.Settles` says when
the modem has the new settings nevertheless; the blacklisted SVs of `mGnssSvIdConfig` it always has,
since they come back unchanged from the list from which they are made when the modem comes up.

`setConfig` hands the SV blacklist to the task of the `LocApi` when the modem comes up, where it is
taken before the requests that are made after it. What follows from an event is put together here.
-/

namespace MataDevice.SvConfig

open MataDevice.Gnss.UpdateConfig (GnssSvIdSource)

/-! ## The adapter -/

abbrev GnssSvTypesMask := BitVec 64

/-- `GnssSvTypesMaskBits` -/
inductive Constellation
  | glo
  | bds
  | qzss
  | gal
  | navic
  | gps
  deriving DecidableEq, Repr

namespace Constellation

def bit : Constellation → ℕ
  | glo => 0
  | bds => 1
  | qzss => 2
  | gal => 3
  | navic => 4
  | gps => 5

/-- The mask of the SVs of a constellation. There is none for GPS. -/
def svMask : Constellation → Option SvMask
  | glo => some .glo
  | bds => some .bds
  | qzss => some .qzss
  | gal => some .gal
  | navic => some .navic
  | gps => none

end Constellation

/-- `mask & GNSS_SV_TYPES_MASK_..._BIT` -/
def has (mask : GnssSvTypesMask) (c : Constellation) : Bool := mask.getLsbD c.bit

structure GnssSvTypeConfig where
  size : UInt32
  enabledSvTypesMask : GnssSvTypesMask
  blacklistedSvTypesMask : GnssSvTypesMask
  deriving DecidableEq, Repr

/-- `sizeof(GnssSvTypeConfig)` -/
def sizeofGnssSvTypeConfig : UInt32 := 24

/-- The requests of `LocApiBase`. -/
inductive Request
  | resetConstellationControl
  | setConstellationControl (config : GnssSvTypeConfig)
  | setBlacklistSv (config : GnssSvIdConfig)
  | setBlacklistSvSync (config : GnssSvIdConfig)
  deriving DecidableEq, Repr

structure GnssAdapter where
  /-- `LOC_SUPPORTED_FEATURE_CONSTELLATION_ENABLEMENT_V02` -/
  isFeatureSupported : Bool
  mGnssSvTypeConfig : GnssSvTypeConfig
  mGnssSvIdConfig : GnssSvIdConfig
  mBlacklistedSvIds : List GnssSvIdSource
  deriving DecidableEq, Repr

/-- The bits that a new configuration removes from the enabled mask. -/
def enabledRemoved (currentEnabledMask newEnabledMask : GnssSvTypesMask) : GnssSvTypesMask :=
  currentEnabledMask &&& (currentEnabledMask ^^^ newEnabledMask)

namespace GnssAdapter

variable (a : GnssAdapter)

def gnssSvIdConfigUpdate : List Request := [.setBlacklistSv a.mGnssSvIdConfig]

def gnssSvIdConfigUpdateSync (blacklistedSvIds : List GnssSvIdSource) :
    GnssAdapter × List Request :=
  let config := (convertToGnssSvIdConfig blacklistedSvIds .zero).2
  ({ a with mGnssSvIdConfig := config }, [.setBlacklistSvSync config])

/-- The SV blacklist of `gnssSvTypeConfigUpdate`, with all SVs of the blacklisted constellations. -/
def blacklistConfig : GnssSvIdConfig :=
  let mask := a.mGnssSvTypeConfig.blacklistedSvTypesMask
  let all (c : Constellation) (own : BitVec 64) := if has mask c then allBitsEnabledMask else own
  { a.mGnssSvIdConfig with
    gloBlacklistSvMask := all .glo a.mGnssSvIdConfig.gloBlacklistSvMask
    bdsBlacklistSvMask := all .bds a.mGnssSvIdConfig.bdsBlacklistSvMask
    qzssBlacklistSvMask := all .qzss a.mGnssSvIdConfig.qzssBlacklistSvMask
    galBlacklistSvMask := all .gal a.mGnssSvIdConfig.galBlacklistSvMask
    navicBlacklistSvMask := all .navic a.mGnssSvIdConfig.navicBlacklistSvMask }

/-- `gnssSvTypeConfigUpdate(bool sendReset)` -/
def sendSvTypeConfig (sendReset : Bool) : List Request :=
  if a.mGnssSvTypeConfig.size = sizeofGnssSvTypeConfig then
    (if sendReset then [Request.resetConstellationControl] else []) ++
      [.setBlacklistSv a.blacklistConfig] ++
      -- only the enabled constellations are sent
      (if a.mGnssSvTypeConfig.enabledSvTypesMask ≠ 0 then
        [Request.setConstellationControl
          ⟨sizeofGnssSvTypeConfig, a.mGnssSvTypeConfig.enabledSvTypesMask, 0⟩]
      else [])
  else []

/-- `gnssSvTypeConfigUpdate(const GnssSvTypeConfig& config)` -/
def gnssSvTypeConfigUpdate (config : GnssSvTypeConfig) : GnssAdapter × List Request :=
  let sendReset :=
    enabledRemoved a.mGnssSvTypeConfig.enabledSvTypesMask config.enabledSvTypesMask != 0
  let a := { a with mGnssSvTypeConfig := config }
  (a, a.sendSvTypeConfig sendReset)

/-- `proc` of `MsgGnssUpdateSvTypeConfig`, with the capabilities known. -/
def gnssUpdateSvTypeConfigCommand (config : GnssSvTypeConfig) : GnssAdapter × List Request :=
  if a.isFeatureSupported then a.gnssSvTypeConfigUpdate config else (a, [])

/-- `proc` of `MsgGnssResetSvTypeConfig`, with the capabilities known. -/
def gnssResetSvTypeConfigCommand : GnssAdapter × List Request :=
  if a.isFeatureSupported then
    let a := { a with mGnssSvTypeConfig := ⟨sizeofGnssSvTypeConfig, 0, 0⟩ }
    (a, a.gnssSvIdConfigUpdate ++ [.resetConstellationControl])
  else (a, [])

def gnssUpdateSvConfig (constellationEnablementConfig : GnssSvTypeConfig)
    (blacklistSvConfig : GnssSvIdConfig) : GnssAdapter × List Request :=
  let control :=
    if constellationEnablementConfig.size = sizeofGnssSvTypeConfig then
      (if enabledRemoved a.mGnssSvTypeConfig.enabledSvTypesMask
          constellationEnablementConfig.enabledSvTypesMask ≠ 0 then
        [Request.resetConstellationControl]
      else []) ++
        -- the configuration that is stored, not the one that is asked for
        [.setConstellationControl a.mGnssSvTypeConfig]
    else if constellationEnablementConfig.size = 0 then [.resetConstellationControl]
    else []
  ({ a with
      mGnssSvTypeConfig := constellationEnablementConfig
      mGnssSvIdConfig := blacklistSvConfig
      mBlacklistedSvIds := convertFromGnssSvIdConfig blacklistSvConfig },
    control ++ [.setBlacklistSv blacklistSvConfig])

/-- `setConfig`, as far as `gnssUpdateConfig` sends the SV blacklist. -/
def setConfig : GnssAdapter × List Request :=
  if a.isFeatureSupported then a.gnssSvIdConfigUpdateSync a.mBlacklistedSvIds else (a, [])

/-- `proc` of `MsgHandleEngineUpEvent`, and what the task of the `LocApi` does of it. -/
def handleEngineUpEvent : GnssAdapter × List Request :=
  let (a', sync) := a.setConfig
  (a', sync ++ a.gnssSvIdConfigUpdate ++ a.sendSvTypeConfig false)

end GnssAdapter

/-! ## The modem -/

/-- What the requests ask of the modem. -/
structure Modem where
  /-- The constellation control. -/
  control : Constellation → Bool
  blacklist : SvMask → BitVec 64

namespace Modem

/-- The modem after a restart, where `default` is the control it starts with. -/
def restarted (default : Constellation → Bool) : Modem := ⟨default, fun _ ↦ 0⟩

def take (default : Constellation → Bool) (m : Modem) : Request → Modem
  | .resetConstellationControl => { m with control := default }
  | .setConstellationControl config =>
    { m with control := fun c ↦ !has config.blacklistedSvTypesMask c &&
        (has config.enabledSvTypesMask c || m.control c) }
  | .setBlacklistSv config | .setBlacklistSvSync config => { m with blacklist := config.mask }

/-- The constellation is used: the control enables it, and not all of its SVs are blacklisted. -/
def On (m : Modem) (c : Constellation) : Prop :=
  m.control c = true ∧ c.svMask.map m.blacklist ≠ some allBitsEnabledMask

end Modem

/-! ## Runs -/

inductive Event
  | gnssUpdateSvTypeConfigCommand (config : GnssSvTypeConfig)
  | gnssResetSvTypeConfigCommand
  | gnssUpdateSvConfigCommand (config : GnssSvTypeConfig) (blacklistSvConfig : GnssSvIdConfig)
  /-- The modem has restarted. -/
  | handleEngineUpEvent
  deriving DecidableEq, Repr

structure System where
  adapter : GnssAdapter
  modem : Modem
  /-- The constellation control that the modem starts with. -/
  default : Constellation → Bool

namespace System

/-- The adapter is new, and so is the modem. -/
def init (default : Constellation → Bool) : System :=
  ⟨⟨true, ⟨0, 0, 0⟩, .zero, []⟩, .restarted default, default⟩

variable (s : System)

/-- The modem gets the requests of the adapter. -/
def send (r : GnssAdapter × List Request) : System :=
  { s with adapter := r.1, modem := r.2.foldl (Modem.take s.default) s.modem }

def step : Event → System
  | .gnssUpdateSvTypeConfigCommand config =>
    s.send (s.adapter.gnssUpdateSvTypeConfigCommand config)
  | .gnssResetSvTypeConfigCommand => s.send s.adapter.gnssResetSvTypeConfigCommand
  | .gnssUpdateSvConfigCommand config blacklistSvConfig =>
    s.send (s.adapter.gnssUpdateSvConfig config blacklistSvConfig)
  | .handleEngineUpEvent =>
    { s with modem := .restarted s.default }.send s.adapter.handleEngineUpEvent

def exec (events : List Event) : System := events.foldl step s

/-- The settings that the adapter keeps are those of the modem. -/
structure InForce : Prop where
  enabled : ∀ c, has s.adapter.mGnssSvTypeConfig.enabledSvTypesMask c → s.modem.On c
  blacklisted : ∀ c, has s.adapter.mGnssSvTypeConfig.blacklistedSvTypesMask c → ¬s.modem.On c
  blacklist : ∀ p i, (s.adapter.mGnssSvIdConfig.mask p).getLsbD i = true →
    (s.modem.blacklist p).getLsbD i = true

end System

/-! ## When the settings are in force -/

/-- All the SVs of a constellation are blacklisted. -/
def GnssSvIdConfig.AllOf (config : GnssSvIdConfig) (c : Constellation) : Prop :=
  c.svMask.map config.mask = some allBitsEnabledMask

/-- What `gnssSvTypeConfigUpdate` can put into force, where `control` is the constellation control
it finds: no constellation is both enabled and turned off, and GPS is not turned off, unless the
control has it off. -/
structure Enforceable (config : GnssSvTypeConfig) (svIdConfig : GnssSvIdConfig)
    (control : Constellation → Bool) : Prop where
  apart : ∀ c, has config.enabledSvTypesMask c →
    ¬has config.blacklistedSvTypesMask c ∧ ¬svIdConfig.AllOf c
  gps : has config.blacklistedSvTypesMask .gps → control .gps = false

/-- What `gnssUpdateSvConfig` puts into force, where `control` is the constellation control after
the reset, and `sent` whether the old configuration `old` is sent. -/
structure Coincides (config : GnssSvTypeConfig) (svIdConfig : GnssSvIdConfig)
    (control : Constellation → Bool) (sent : Prop) (old : GnssSvTypeConfig) : Prop where
  enabled : ∀ c, has config.enabledSvTypesMask c → ¬svIdConfig.AllOf c ∧
    ¬(sent ∧ has old.blacklistedSvTypesMask c) ∧
    (control c ∨ sent ∧ has old.enabledSvTypesMask c)
  blacklisted : ∀ c, has config.blacklistedSvTypesMask c → svIdConfig.AllOf c ∨
    sent ∧ has old.blacklistedSvTypesMask c ∨
    ¬control c ∧ ¬(sent ∧ has old.enabledSvTypesMask c)

namespace System

variable (s : System)

/-- The constellation control after the reset that is sent if `config` removes a constellation from
the enabled ones. -/
def afterReset (config : GnssSvTypeConfig) : Constellation → Bool :=
  if enabledRemoved s.adapter.mGnssSvTypeConfig.enabledSvTypesMask config.enabledSvTypesMask ≠ 0
  then s.default else s.modem.control

/-- What the event and the state before it have to be like for the settings to be in force after
it. -/
def Settles : Event → Prop
  | .gnssUpdateSvTypeConfigCommand config =>
    if config.size = sizeofGnssSvTypeConfig then
      Enforceable config s.adapter.mGnssSvIdConfig (s.afterReset config)
    else
      -- nothing is sent
      (∀ c, has config.enabledSvTypesMask c → s.modem.On c) ∧
        ∀ c, has config.blacklistedSvTypesMask c → ¬s.modem.On c
  | .gnssResetSvTypeConfigCommand => True
  | .gnssUpdateSvConfigCommand config blacklistSvConfig =>
    Coincides config blacklistSvConfig
      (if config.size = sizeofGnssSvTypeConfig then s.afterReset config
      else if config.size = 0 then s.default else s.modem.control)
      (config.size = sizeofGnssSvTypeConfig) s.adapter.mGnssSvTypeConfig
  | .handleEngineUpEvent =>
    if s.adapter.mGnssSvTypeConfig.size = sizeofGnssSvTypeConfig then
      Enforceable s.adapter.mGnssSvTypeConfig s.adapter.mGnssSvIdConfig s.default
    else
      Coincides s.adapter.mGnssSvTypeConfig s.adapter.mGnssSvIdConfig s.default False
        s.adapter.mGnssSvTypeConfig

/-! ## The invariant -/

/-- What holds in every run, whatever the settings are. -/
structure Kept : Prop where
  supported : s.adapter.isFeatureSupported = true
  /-- The masks can be made from the list again. -/
  mask_eq : ∀ p, (convertToGnssSvIdConfig s.adapter.mBlacklistedSvIds .zero).2.mask p =
    s.adapter.mGnssSvIdConfig.mask p
  blacklist : ∀ p i, (s.adapter.mGnssSvIdConfig.mask p).getLsbD i = true →
    (s.modem.blacklist p).getLsbD i = true

end System

@[simp] theorem has_zero (c : Constellation) : has 0#64 c = false := by
  simp [has]

/-- The blacklist that is sent has the masks of the adapter, or all bits. -/
theorem mask_blacklistConfig (a : GnssAdapter) (p : SvMask) :
    a.blacklistConfig.mask p = a.mGnssSvIdConfig.mask p ∨
      a.blacklistConfig.mask p = allBitsEnabledMask := by
  cases p with
  | sbas => exact Or.inl rfl
  | _ =>
    simp only [GnssAdapter.blacklistConfig, GnssSvIdConfig.mask]
    exact (ite_eq_or_eq _ _ _).symm

theorem getLsbD_blacklistConfig (a : GnssAdapter) {p : SvMask} {i : ℕ}
    (h : (a.mGnssSvIdConfig.mask p).getLsbD i = true) :
    (a.blacklistConfig.mask p).getLsbD i = true := by
  rcases mask_blacklistConfig a p with hown | hall
  · rwa [hown]
  · rw [hall, allBitsEnabledMask, BitVec.getLsbD_allOnes]
    exact decide_eq_true (BitVec.lt_of_getLsbD h)

theorem allOf_blacklistConfig (a : GnssAdapter) (c : Constellation) :
    a.blacklistConfig.AllOf c ↔ a.mGnssSvIdConfig.AllOf c ∨
      c ≠ .gps ∧ has a.mGnssSvTypeConfig.blacklistedSvTypesMask c = true := by
  cases c with
  | gps => simp [GnssSvIdConfig.AllOf, Constellation.svMask]
  | _ =>
    simp only [GnssSvIdConfig.AllOf, Constellation.svMask, Option.map_some, Option.some.injEq,
      GnssSvIdConfig.mask, GnssAdapter.blacklistConfig]
    split <;> simp [*]

/-- What `gnssSvTypeConfigUpdate` leaves at the modem. -/
theorem foldl_sendSvTypeConfig (a : GnssAdapter) (default : Constellation → Bool) (m : Modem)
    (sendReset : Bool) (hsize : a.mGnssSvTypeConfig.size = sizeofGnssSvTypeConfig) :
    (a.sendSvTypeConfig sendReset).foldl (Modem.take default) m =
      ⟨fun c ↦ has a.mGnssSvTypeConfig.enabledSvTypesMask c ||
        (if sendReset then default else m.control) c, a.blacklistConfig.mask⟩ := by
  rw [GnssAdapter.sendSvTypeConfig, if_pos hsize]
  by_cases henabled : a.mGnssSvTypeConfig.enabledSvTypesMask = 0
  · rw [if_neg (not_not.mpr henabled), henabled]
    cases sendReset <;> simp [Modem.take]
  · rw [if_pos henabled]
    cases sendReset <;> simp [Modem.take]

/-- The settings of `gnssSvTypeConfigUpdate` are in force if and only if it can put them there. -/
theorem enforceable_iff (a : GnssAdapter) (control : Constellation → Bool) :
    ((∀ c, has a.mGnssSvTypeConfig.enabledSvTypesMask c →
        Modem.On ⟨fun c ↦ has a.mGnssSvTypeConfig.enabledSvTypesMask c || control c,
          a.blacklistConfig.mask⟩ c) ∧
      ∀ c, has a.mGnssSvTypeConfig.blacklistedSvTypesMask c →
        ¬Modem.On ⟨fun c ↦ has a.mGnssSvTypeConfig.enabledSvTypesMask c || control c,
          a.blacklistConfig.mask⟩ c) ↔
      Enforceable a.mGnssSvTypeConfig a.mGnssSvIdConfig control := by
  have hon : ∀ c, Modem.On ⟨fun c ↦ has a.mGnssSvTypeConfig.enabledSvTypesMask c || control c,
      a.blacklistConfig.mask⟩ c ↔
      (has a.mGnssSvTypeConfig.enabledSvTypesMask c = true ∨ control c = true) ∧
        ¬a.mGnssSvIdConfig.AllOf c ∧
        ¬(c ≠ .gps ∧ has a.mGnssSvTypeConfig.blacklistedSvTypesMask c = true) := by
    intro c
    rw [Modem.On, ← not_or, ← allOf_blacklistConfig, Bool.or_eq_true]
    rfl
  simp only [hon]
  constructor
  · rintro ⟨henabled, hblacklisted⟩
    refine ⟨fun c hc ↦ ?_, fun hgps ↦ ?_⟩
    · obtain ⟨-, hall, -⟩ := henabled c hc
      exact ⟨fun hblack ↦ hblacklisted c hblack (henabled c hc), hall⟩
    · refine Bool.eq_false_iff.mpr fun hcontrol ↦ hblacklisted .gps hgps ⟨Or.inr hcontrol, ?_, ?_⟩
      · simp [GnssSvIdConfig.AllOf, Constellation.svMask]
      · exact fun h ↦ h.1 rfl
  · rintro ⟨hapart, hgps⟩
    refine ⟨fun c hc ↦ ⟨Or.inl hc, (hapart c hc).2, fun h ↦ (hapart c hc).1 h.2⟩, ?_⟩
    rintro c hblack ⟨hcontrol, -, hmask⟩
    by_cases hc : c = .gps
    · subst hc
      rcases hcontrol with henabled | hcontrol
      · exact (hapart .gps henabled).1 hblack
      · rw [hgps hblack] at hcontrol
        cases hcontrol
    · exact hmask ⟨hc, hblack⟩

/-- The settings of `gnssUpdateSvConfig` are in force if and only if they coincide with what the
modem has been told. -/
theorem coincides_iff {config old : GnssSvTypeConfig} {svIdConfig : GnssSvIdConfig}
    {control control' : Constellation → Bool} {sent : Prop}
    (hcontrol : ∀ c, control' c = true ↔ ¬(sent ∧ has old.blacklistedSvTypesMask c = true) ∧
      (control c = true ∨ sent ∧ has old.enabledSvTypesMask c = true)) :
    ((∀ c, has config.enabledSvTypesMask c → Modem.On ⟨control', svIdConfig.mask⟩ c) ∧
      ∀ c, has config.blacklistedSvTypesMask c → ¬Modem.On ⟨control', svIdConfig.mask⟩ c) ↔
      Coincides config svIdConfig control sent old := by
  have hon : ∀ c, Modem.On ⟨control', svIdConfig.mask⟩ c ↔ ¬svIdConfig.AllOf c ∧
      ¬(sent ∧ has old.blacklistedSvTypesMask c = true) ∧
      (control c = true ∨ sent ∧ has old.enabledSvTypesMask c = true) := by
    intro c
    rw [Modem.On, hcontrol, and_comm]
    rfl
  have hoff : ∀ c, ¬Modem.On ⟨control', svIdConfig.mask⟩ c ↔ svIdConfig.AllOf c ∨
      sent ∧ has old.blacklistedSvTypesMask c = true ∨
      ¬control c = true ∧ ¬(sent ∧ has old.enabledSvTypesMask c = true) := by
    intro c
    rw [hon, not_and_or, not_not, not_and_or, not_not, not_or]
  constructor
  · rintro ⟨henabled, hblacklisted⟩
    exact ⟨fun c hc ↦ (hon c).mp (henabled c hc), fun c hc ↦ (hoff c).mp (hblacklisted c hc)⟩
  · rintro ⟨henabled, hblacklisted⟩
    exact ⟨fun c hc ↦ (hon c).mpr (henabled c hc), fun c hc ↦ (hoff c).mpr (hblacklisted c hc)⟩

namespace System

variable {s : System} {e : Event}

theorem kept_init (default : Constellation → Bool) : (init default).Kept := by
  refine ⟨rfl, fun p ↦ ?_, fun p i h ↦ ?_⟩
  · cases p <;> rfl
  · simp [init] at h

/-- The settings in force, where the SVs of `mGnssSvIdConfig` are blacklisted. -/
theorem inForce_iff (h : s.Kept) : s.InForce ↔
    (∀ c, has s.adapter.mGnssSvTypeConfig.enabledSvTypesMask c → s.modem.On c) ∧
      ∀ c, has s.adapter.mGnssSvTypeConfig.blacklistedSvTypesMask c → ¬s.modem.On c :=
  ⟨fun hforce ↦ ⟨hforce.enabled, hforce.blacklisted⟩, fun ⟨henabled, hblacklisted⟩ ↦
    ⟨henabled, hblacklisted, h.blacklist⟩⟩

/-- The adapter has the same masks, and they are among those of the modem. -/
theorem Kept.of_send {s' : System} (h : s.Kept)
    (hsupported : s'.adapter.isFeatureSupported = s.adapter.isFeatureSupported)
    (hmask : ∀ p, s'.adapter.mGnssSvIdConfig.mask p = s.adapter.mGnssSvIdConfig.mask p)
    (hids : s'.adapter.mBlacklistedSvIds = s.adapter.mBlacklistedSvIds)
    (hblacklist : ∀ p i, (s.adapter.mGnssSvIdConfig.mask p).getLsbD i = true →
      (s'.modem.blacklist p).getLsbD i = true) : s'.Kept := by
  refine ⟨hsupported.trans h.supported, fun p ↦ ?_, fun p i hi ↦ hblacklist p i ?_⟩
  · rw [hids, hmask, h.mask_eq]
  · rwa [hmask] at hi

theorem kept_gnssUpdateSvTypeConfigCommand (h : s.Kept) (config : GnssSvTypeConfig) :
    (s.step (.gnssUpdateSvTypeConfigCommand config)).Kept ∧
      ((s.step (.gnssUpdateSvTypeConfigCommand config)).InForce ↔
        s.Settles (.gnssUpdateSvTypeConfigCommand config)) := by
  have hstep : s.step (.gnssUpdateSvTypeConfigCommand config) =
      s.send (s.adapter.gnssSvTypeConfigUpdate config) := by
    rw [step, GnssAdapter.gnssUpdateSvTypeConfigCommand, if_pos h.supported]
  rw [hstep, Settles]
  split
  · next hsize =>
    have hmodem : (s.send (s.adapter.gnssSvTypeConfigUpdate config)).modem =
        ⟨fun c ↦ has config.enabledSvTypesMask c || s.afterReset config c,
          (s.adapter.gnssSvTypeConfigUpdate config).1.blacklistConfig.mask⟩ := by
      refine (foldl_sendSvTypeConfig _ _ _ _ hsize).trans ?_
      simp only [bne_iff_ne]
      rfl
    have hkept : (s.send (s.adapter.gnssSvTypeConfigUpdate config)).Kept :=
      h.of_send rfl (fun _ ↦ rfl) rfl fun p i hi ↦ by
        rw [hmodem]
        exact getLsbD_blacklistConfig _ hi
    refine ⟨hkept, (inForce_iff hkept).trans ?_⟩
    rw [hmodem]
    exact enforceable_iff _ _
  · next hsize =>
    have hmodem : (s.send (s.adapter.gnssSvTypeConfigUpdate config)).modem = s.modem := by
      rw [send, GnssAdapter.gnssSvTypeConfigUpdate, GnssAdapter.sendSvTypeConfig, if_neg hsize]
      rfl
    have hkept : (s.send (s.adapter.gnssSvTypeConfigUpdate config)).Kept :=
      h.of_send rfl (fun _ ↦ rfl) rfl fun p i hi ↦ by
        rw [hmodem]
        exact h.blacklist p i hi
    refine ⟨hkept, (inForce_iff hkept).trans ?_⟩
    rw [hmodem]
    rfl

theorem kept_gnssResetSvTypeConfigCommand (h : s.Kept) :
    (s.step .gnssResetSvTypeConfigCommand).Kept ∧
      (s.step .gnssResetSvTypeConfigCommand).InForce := by
  have hstep : s.step .gnssResetSvTypeConfigCommand =
      { s with
        adapter := { s.adapter with mGnssSvTypeConfig := ⟨sizeofGnssSvTypeConfig, 0, 0⟩ }
        modem := ⟨s.default, s.adapter.mGnssSvIdConfig.mask⟩ } := by
    rw [step, GnssAdapter.gnssResetSvTypeConfigCommand, if_pos h.supported]
    rfl
  rw [hstep]
  refine ⟨h.of_send rfl (fun _ ↦ rfl) rfl fun _ _ hi ↦ hi, ⟨?_, ?_, fun _ _ hi ↦ hi⟩⟩
  · simp
  · simp

theorem kept_gnssUpdateSvConfigCommand (h : s.Kept) (config : GnssSvTypeConfig)
    (blacklistSvConfig : GnssSvIdConfig) :
    (s.step (.gnssUpdateSvConfigCommand config blacklistSvConfig)).Kept ∧
      ((s.step (.gnssUpdateSvConfigCommand config blacklistSvConfig)).InForce ↔
        s.Settles (.gnssUpdateSvConfigCommand config blacklistSvConfig)) := by
  obtain ⟨control', hmodem, hcontrol⟩ : ∃ control',
      (s.step (.gnssUpdateSvConfigCommand config blacklistSvConfig)).modem =
        ⟨control', blacklistSvConfig.mask⟩ ∧
      ∀ c, control' c = true ↔
        ¬(config.size = sizeofGnssSvTypeConfig ∧
          has s.adapter.mGnssSvTypeConfig.blacklistedSvTypesMask c = true) ∧
        ((if config.size = sizeofGnssSvTypeConfig then s.afterReset config
          else if config.size = 0 then s.default else s.modem.control) c = true ∨
          config.size = sizeofGnssSvTypeConfig ∧
          has s.adapter.mGnssSvTypeConfig.enabledSvTypesMask c = true) := by
    rw [step, send, GnssAdapter.gnssUpdateSvConfig]
    dsimp only
    by_cases hsize : config.size = sizeofGnssSvTypeConfig
    · simp only [if_pos hsize, afterReset]
      split
      · exact ⟨_, rfl, fun c ↦ by simp [Modem.take, hsize, or_comm]⟩
      · exact ⟨_, rfl, fun c ↦ by simp [Modem.take, hsize, or_comm]⟩
    · simp only [if_neg hsize]
      split
      · exact ⟨_, rfl, fun c ↦ by simp [Modem.take, hsize]⟩
      · exact ⟨_, rfl, fun c ↦ by simp [hsize]⟩
  have hkept : (s.step (.gnssUpdateSvConfigCommand config blacklistSvConfig)).Kept := by
    refine ⟨h.supported, fun p ↦ ?_, fun p i hi ↦ ?_⟩
    · exact mask_convertToGnssSvIdConfig_convertFromGnssSvIdConfig blacklistSvConfig p
    · rw [hmodem]
      exact hi
  refine ⟨hkept, (inForce_iff hkept).trans ?_⟩
  rw [hmodem]
  exact coincides_iff hcontrol

theorem kept_handleEngineUpEvent (h : s.Kept) :
    (s.step .handleEngineUpEvent).Kept ∧
      ((s.step .handleEngineUpEvent).InForce ↔ s.Settles .handleEngineUpEvent) := by
  have hstep : s.step .handleEngineUpEvent = { s with
      adapter := { s.adapter with
        mGnssSvIdConfig := (convertToGnssSvIdConfig s.adapter.mBlacklistedSvIds .zero).2 }
      modem := (s.adapter.sendSvTypeConfig false).foldl (Modem.take s.default)
        ⟨s.default, s.adapter.mGnssSvIdConfig.mask⟩ } := by
    rw [step, GnssAdapter.handleEngineUpEvent, GnssAdapter.setConfig, if_pos h.supported]
    rfl
  rw [hstep, Settles]
  split
  · next hsize =>
    rw [foldl_sendSvTypeConfig _ _ _ _ hsize]
    have hkept : Kept { s with
        adapter := { s.adapter with
          mGnssSvIdConfig := (convertToGnssSvIdConfig s.adapter.mBlacklistedSvIds .zero).2 }
        modem := ⟨fun c ↦ has s.adapter.mGnssSvTypeConfig.enabledSvTypesMask c || s.default c,
          s.adapter.blacklistConfig.mask⟩ } :=
      h.of_send rfl h.mask_eq rfl fun p i hi ↦ getLsbD_blacklistConfig _ hi
    exact ⟨hkept, (inForce_iff hkept).trans (enforceable_iff s.adapter s.default)⟩
  · next hsize =>
    rw [GnssAdapter.sendSvTypeConfig, if_neg hsize, List.foldl_nil]
    have hkept : Kept { s with
        adapter := { s.adapter with
          mGnssSvIdConfig := (convertToGnssSvIdConfig s.adapter.mBlacklistedSvIds .zero).2 }
        modem := ⟨s.default, s.adapter.mGnssSvIdConfig.mask⟩ } :=
      h.of_send rfl h.mask_eq rfl fun _ _ hi ↦ hi
    exact ⟨hkept, (inForce_iff hkept).trans (coincides_iff fun c ↦ by simp)⟩

theorem kept_step (h : s.Kept) (e : Event) :
    (s.step e).Kept ∧ ((s.step e).InForce ↔ s.Settles e) := by
  cases e with
  | gnssUpdateSvTypeConfigCommand config => exact kept_gnssUpdateSvTypeConfigCommand h config
  | gnssResetSvTypeConfigCommand =>
    obtain ⟨hkept, hforce⟩ := kept_gnssResetSvTypeConfigCommand h
    exact ⟨hkept, iff_of_true hforce trivial⟩
  | gnssUpdateSvConfigCommand config blacklistSvConfig =>
    exact kept_gnssUpdateSvConfigCommand h config blacklistSvConfig
  | handleEngineUpEvent => exact kept_handleEngineUpEvent h

theorem kept_exec (default : Constellation → Bool) (events : List Event) :
    ((init default).exec events).Kept := by
  induction events using List.reverseRecOn with
  | nil => exact kept_init default
  | append_singleton events e ih =>
    rw [exec, List.foldl_concat]
    exact (kept_step ih e).1

/-- In every run, the settings are in force after each event if and only if each event settles
them. -/
theorem inForce_iff_settles (default : Constellation → Bool) (events : List Event) :
    Always (fun pre e ↦ ((init default).exec (pre ++ [e])).InForce) events ↔
      Always (fun pre e ↦ ((init default).exec pre).Settles e) events := by
  have hstep : ∀ pre e, ((init default).exec (pre ++ [e])).InForce ↔
      ((init default).exec pre).Settles e := by
    intro pre e
    rw [exec, List.foldl_concat]
    exact (kept_step (kept_exec default pre) e).2
  simp only [hstep]

/-- A constellation that is enabled by `gnssUpdateSvConfig` is not enabled at the modem, and one
that is blacklisted is still used, since the old configuration is sent. -/
theorem not_inForce : ¬∀ (default : Constellation → Bool) (events : List Event),
    Always (fun pre e ↦ ((init default).exec (pre ++ [e])).InForce) events := by
  intro h
  have hforce := h (· == .glo)
    [.gnssUpdateSvConfigCommand ⟨sizeofGnssSvTypeConfig, 2, 1⟩ .zero] [] _ [] rfl
  have hon := hforce.enabled .bds rfl
  exact absurd hon.1 (by decide)

end System

end MataDevice.SvConfig
