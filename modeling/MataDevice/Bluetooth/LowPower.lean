import MataDevice.Bluetooth.EventRouting

/-!
# The low-power mode of the Bluetooth controller

The controller sleeps while its wake signal is not asserted. `Send` asserts it before it passes
bytes on, and arms the idle timer of the file descriptor watcher; `OnTimeout` takes it back if there
was no `Send` since the time-out before. The timeout is only known once the vendor library has
configured the firmware and calls `OnFirmwareConfigured`.

`Send` and `OnTimeout` hold `wakeup_mutex_` from their beginning to their end.
`OnFirmwareConfigured` does not take it, so that it may run between any two steps of the others. The
flags and the timeout are global variables and keep their values from one session to the next; the
watcher and its timer belong to the interface object. A timeout of 0 switches the timer off.
-/

namespace MataDevice.Bluetooth.Lpm

/-- `bt_vendor_lpm_wake_state_t`. -/
inductive WakeState
  | assert
  | deassert
  deriving DecidableEq, Repr

/-- Where the thread in `Send` is that holds the mutex. -/
inductive SendAt
  | idle
  /-- Wake is not asserted, and the timeout has been read. -/
  | read (timeoutMs : UInt32)
  /-- The timer has been configured. -/
  | armed
  /-- Wake is asserted. -/
  | awake
  deriving DecidableEq, Repr

/-- Where the watcher thread is in `OnTimeout`. -/
inductive TimeoutAt
  | idle
  /-- The timer has expired, and the mutex is not held yet. -/
  | expired
  /-- Wake has been de-asserted, and the timer is still to be switched off. -/
  | deasserted
  /-- Only the flag is still to be cleared. -/
  | ending
  deriving DecidableEq, Repr

/-- `OnFirmwareConfigured` in this session. -/
inductive FirmwareAt
  | idle
  /-- The timeout has been stored, and the timer is still to be configured. -/
  | stored
  | configured
  deriving DecidableEq, Repr

structure VendorInterface where
  gVendorInterface : Interface
  lpmWakeDeasserted : Bool
  lpmTimeoutMs : UInt32
  recentActivityFlag : Bool
  /-- The timeout `fd_watcher_` is configured with. -/
  timer : UInt32
  /-- The last wake operation of this session. -/
  wake : Option WakeState
  send : SendAt
  timeout : TimeoutAt
  firmware : FirmwareAt
  deriving DecidableEq, Repr

inductive Event
  /-- `Initialize`, and whether its `Open` succeeds. -/
  | initializeInterface (opens : Bool)
  | shutdown
  /-- `Send` up to the arguments of `ConfigureTimeout`. -/
  | send
  /-- `ConfigureTimeout` in `Send`. -/
  | configureTimeout
  /-- `Send` asserts wake. -/
  | assertWake
  /-- `hci_->Send`, and the end of `Send`. -/
  | hciSend
  /-- `OnFirmwareConfigured` gets the timeout from the vendor library. -/
  | getIdleTimeout (timeoutMs : UInt32)
  /-- `ConfigureTimeout` in `OnFirmwareConfigured`, and its end. -/
  | startWatchdog
  /-- The timer expires. -/
  | expire
  /-- `OnTimeout` gets the mutex and looks at the flag. -/
  | onTimeout
  /-- `ConfigureTimeout` in `OnTimeout`. -/
  | stopTimer
  /-- The end of `OnTimeout`. -/
  | clearFlag
  deriving DecidableEq, Repr

inductive Output
  /-- `BT_VND_OP_LPM_WAKE_SET_STATE`. -/
  | setWakeState (state : WakeState)
  /-- Bytes are passed to `hci_->Send`. -/
  | hciSend
  deriving DecidableEq, Repr

namespace VendorInterface

/-- The global variables are zero at first. -/
def initial : VendorInterface :=
  ⟨.none, false, 0, false, 0, none, .idle, .idle, .idle⟩

variable (s : VendorInterface)

/-- Nobody holds `wakeup_mutex_`. -/
def Unlocked : Prop := s.send = .idle ∧ (s.timeout = .idle ∨ s.timeout = .expired)

instance : Decidable s.Unlocked := inferInstanceAs (Decidable (_ ∧ _))

/-- A step of a thread inside one of the entry points. It is refused where no thread is at that
point, where it would block, and without an open interface. A session ends when no call is going
on. -/
def step : Event → Option (VendorInterface × List Output)
  | .initializeInterface opens =>
    if s.gVendorInterface ≠ .none then some (s, [])
    else if opens then
      some ({ s with
        gVendorInterface := .opened, lpmWakeDeasserted := true, timer := 0, send := .idle,
        timeout := .idle, firmware := .idle }, [])
    else some ({ s with gVendorInterface := .failed }, [])
  | .shutdown =>
    if s.gVendorInterface ≠ .none ∧ s.send = .idle ∧ s.timeout = .idle ∧ s.firmware ≠ .stored then
      some ({ s with gVendorInterface := .none, timer := 0, wake := none, firmware := .idle }, [])
    else none
  | .send =>
    if s.gVendorInterface = .opened ∧ s.Unlocked then
      some ({ s with
        recentActivityFlag := true
        send := if s.lpmWakeDeasserted then .read s.lpmTimeoutMs else .awake }, [])
    else none
  | .configureTimeout =>
    match s.send with
    | .read timeoutMs => some ({ s with timer := timeoutMs, send := .armed }, [])
    | _ => none
  | .assertWake =>
    if s.send = .armed then
      some ({ s with lpmWakeDeasserted := false, wake := some .assert, send := .awake },
        [.setWakeState .assert])
    else none
  | .hciSend =>
    if s.send = .awake then some ({ s with send := .idle }, [.hciSend]) else none
  | .getIdleTimeout timeoutMs =>
    if s.gVendorInterface = .opened ∧ s.firmware ≠ .stored then
      some ({ s with lpmTimeoutMs := timeoutMs, firmware := .stored }, [])
    else none
  | .startWatchdog =>
    if s.firmware = .stored then
      some ({ s with timer := s.lpmTimeoutMs, firmware := .configured }, [])
    else none
  | .expire =>
    if s.gVendorInterface = .opened ∧ s.timer ≠ 0 ∧ s.timeout = .idle then
      some ({ s with timeout := .expired }, [])
    else none
  | .onTimeout =>
    if s.timeout = .expired ∧ s.Unlocked then
      if s.recentActivityFlag then some ({ s with timeout := .ending }, [])
      else
        some ({ s with lpmWakeDeasserted := true, wake := some .deassert, timeout := .deasserted },
          [.setWakeState .deassert])
    else none
  | .stopTimer =>
    if s.timeout = .deasserted then some ({ s with timer := 0, timeout := .ending }, []) else none
  | .clearFlag =>
    if s.timeout = .ending then
      some ({ s with recentActivityFlag := false, timeout := .idle }, [])
    else none

/-! ## The protocol -/

/-- A wake operation, or the end of the session. -/
def wakeOf : Item Event Output → Option (Option WakeState)
  | .event .shutdown => some none
  | .out (.setWakeState state) => some (some state)
  | _ => none

/-- Whether there was a `Send` since the last time-out. -/
def activity : Item Event Output → Option Bool
  | .event .send => some true
  | .event .clearFlag => some false
  | _ => none

/-- The wake protocol. -/
structure Wakes (hist : List (Item Event Output)) : Prop where
  /-- Bytes are only sent while the last wake operation of the session is `ASSERT`. -/
  sends : Always (fun pre x ↦ x = .out .hciSend → (latest wakeOf pre).join = some .assert) hist
  /-- Wake is only de-asserted if there was no `Send` since the time-out before. -/
  deasserts : Always (fun pre x ↦ x = .out (.setWakeState .deassert) →
    latest activity pre ≠ some true) hist
  /-- Once the firmware is configured, the timer runs while wake is asserted. -/
  armed : s.firmware = .configured → s.lpmTimeoutMs ≠ 0 →
    (latest wakeOf hist).join = some .assert → s.timer ≠ 0

/-- `OnFirmwareConfigured` does not configure the timer between the moment a `Send` reads the
timeout, as 0, and the moment it configures the timer itself. -/
def InOrder : Event → Prop
  | .startWatchdog => s.lpmTimeoutMs ≠ 0 → s.send ≠ .read 0
  | _ => True

instance : ∀ e, Decidable (s.InOrder e)
  | .startWatchdog => inferInstanceAs (Decidable (_ → _))
  | .initializeInterface _ | .shutdown | .send | .configureTimeout | .assertWake | .hciSend
  | .getIdleTimeout _ | .expire | .onTimeout | .stopTimer | .clearFlag =>
    inferInstanceAs (Decidable True)

/-- What the mutex and the order of the steps give: flag, wake signal and timer agree. -/
structure Agrees : Prop where
  mutex : s.send ≠ .idle → s.timeout = .idle ∨ s.timeout = .expired
  asserted : s.gVendorInterface = .opened → s.lpmWakeDeasserted = false → s.wake = some .assert
  awake : s.send = .awake → s.wake = some .assert
  deasserted : s.timeout = .deasserted → s.wake = some .deassert

/-- Once the firmware is configured, a `Send` arms the timer before it asserts wake. -/
structure Armed : Prop where
  asserted : s.wake = some .assert → s.timer ≠ 0
  armed : s.send = .armed → s.timer ≠ 0
  read : ∀ timeoutMs, s.send = .read timeoutMs → timeoutMs ≠ 0

variable {s} {s' : VendorInterface} {e : Event} {outs : List Output}

theorem agrees_initial : initial.Agrees := by
  constructor
  all_goals decide

/-- One step keeps flag and wake signal together. -/
theorem Agrees.step (h : s.Agrees) (hs : s.step e = some (s', outs)) : s'.Agrees := by
  cases e with
  | initializeInterface opens =>
    rw [VendorInterface.step] at hs
    split at hs
    · obtain ⟨rfl, -⟩ := some_pair_inj hs
      exact h
    · split at hs
      · obtain ⟨rfl, -⟩ := some_pair_inj hs
        exact ⟨by simp, by simp, by simp, by simp⟩
      · obtain ⟨rfl, -⟩ := some_pair_inj hs
        exact ⟨h.mutex, by simp, h.awake, h.deasserted⟩
  | shutdown =>
    obtain ⟨⟨-, hsend, htimeout, -⟩, rfl, -⟩ := ite_pair_inj hs
    exact ⟨h.mutex, by simp, by simp [hsend], by simp [htimeout]⟩
  | send =>
    obtain ⟨⟨hopened, hsend, htimeout⟩, rfl, -⟩ := ite_pair_inj hs
    refine ⟨fun _ ↦ htimeout, h.asserted, fun hawake ↦ h.asserted hopened ?_, h.deasserted⟩
    by_contra hdeasserted
    rw [Bool.not_eq_false] at hdeasserted
    simp [hdeasserted] at hawake
  | configureTimeout =>
    rw [VendorInterface.step] at hs
    split at hs
    · next hsend =>
      obtain ⟨rfl, -⟩ := some_pair_inj hs
      exact ⟨fun _ ↦ h.mutex (by simp [hsend]), h.asserted, by simp, h.deasserted⟩
    · cases hs
  | assertWake =>
    obtain ⟨hsend, rfl, -⟩ := ite_pair_inj hs
    have htimeout := h.mutex (by simp [hsend])
    refine ⟨fun _ ↦ htimeout, fun _ _ ↦ rfl, fun _ ↦ rfl, fun hdeasserted ↦ ?_⟩
    simp only at hdeasserted
    simp [hdeasserted] at htimeout
  | hciSend =>
    obtain ⟨-, rfl, -⟩ := ite_pair_inj hs
    exact ⟨by simp, h.asserted, by simp, h.deasserted⟩
  | getIdleTimeout timeoutMs | startWatchdog =>
    obtain ⟨-, rfl, -⟩ := ite_pair_inj hs
    exact ⟨h.mutex, h.asserted, h.awake, h.deasserted⟩
  | expire =>
    obtain ⟨-, rfl, -⟩ := ite_pair_inj hs
    exact ⟨fun _ ↦ Or.inr rfl, h.asserted, h.awake, by simp⟩
  | onTimeout =>
    obtain ⟨⟨-, hsend, -⟩, hs⟩ := Option.ite_none_right_eq_some.mp hs
    split at hs
    · obtain ⟨rfl, -⟩ := some_pair_inj hs
      exact ⟨by simp [hsend], h.asserted, h.awake, by simp⟩
    · obtain ⟨rfl, -⟩ := some_pair_inj hs
      exact ⟨by simp [hsend], by simp, by simp [hsend], fun _ ↦ rfl⟩
  | stopTimer =>
    obtain ⟨htimeout, rfl, -⟩ := ite_pair_inj hs
    refine ⟨fun hsend ↦ ?_, h.asserted, h.awake, by simp⟩
    have hmutex := h.mutex hsend
    simp [htimeout] at hmutex
  | clearFlag =>
    obtain ⟨-, rfl, -⟩ := ite_pair_inj hs
    exact ⟨fun _ ↦ Or.inl rfl, h.asserted, h.awake, by simp⟩

/-- Without a call of `OnFirmwareConfigured` in the middle of a `Send`, a step keeps the timer
armed. -/
theorem Armed.step (h : s.firmware = .configured → s.lpmTimeoutMs ≠ 0 → s.Armed) (ha : s.Agrees)
    (hg : s.InOrder e) (hs : s.step e = some (s', outs)) (hf : s'.firmware = .configured)
    (ht : s'.lpmTimeoutMs ≠ 0) : s'.Armed := by
  cases e with
  | initializeInterface opens =>
    rw [VendorInterface.step] at hs
    split at hs
    · obtain ⟨rfl, -⟩ := some_pair_inj hs
      exact h hf ht
    · split at hs
      · obtain ⟨rfl, -⟩ := some_pair_inj hs
        cases hf
      · obtain ⟨rfl, -⟩ := some_pair_inj hs
        exact ⟨(h hf ht).asserted, (h hf ht).armed, (h hf ht).read⟩
  | shutdown | getIdleTimeout timeoutMs =>
    obtain ⟨-, rfl, -⟩ := ite_pair_inj hs
    cases hf
  | send =>
    obtain ⟨-, rfl, -⟩ := ite_pair_inj hs
    refine ⟨(h hf ht).asserted, fun harmed ↦ ?_, fun timeoutMs hread ↦ ?_⟩
    · cases hd : s.lpmWakeDeasserted with
      | true | false => simp [hd] at harmed
    · cases hd : s.lpmWakeDeasserted with
      | true =>
        simp only [hd, if_true, SendAt.read.injEq] at hread
        exact hread ▸ ht
      | false => simp [hd] at hread
  | configureTimeout =>
    rw [VendorInterface.step] at hs
    split at hs
    · next timeoutMs hread =>
      obtain ⟨rfl, -⟩ := some_pair_inj hs
      have hne := (h hf ht).read timeoutMs hread
      exact ⟨fun _ ↦ hne, fun _ ↦ hne, by simp⟩
    · cases hs
  | assertWake =>
    obtain ⟨harmed, rfl, -⟩ := ite_pair_inj hs
    exact ⟨fun _ ↦ (h hf ht).armed harmed, by simp, by simp⟩
  | hciSend =>
    obtain ⟨-, rfl, -⟩ := ite_pair_inj hs
    exact ⟨(h hf ht).asserted, by simp, by simp⟩
  | startWatchdog =>
    obtain ⟨-, rfl, -⟩ := ite_pair_inj hs
    refine ⟨fun _ ↦ ht, fun _ ↦ ht, fun timeoutMs hread hzero ↦ ?_⟩
    rw [hzero] at hread
    exact hg ht hread
  | expire | clearFlag =>
    obtain ⟨-, rfl, -⟩ := ite_pair_inj hs
    exact ⟨(h hf ht).asserted, (h hf ht).armed, (h hf ht).read⟩
  | onTimeout =>
    obtain ⟨-, hs⟩ := Option.ite_none_right_eq_some.mp hs
    split at hs
    · obtain ⟨rfl, -⟩ := some_pair_inj hs
      exact ⟨(h hf ht).asserted, (h hf ht).armed, (h hf ht).read⟩
    · obtain ⟨rfl, -⟩ := some_pair_inj hs
      exact ⟨by simp, (h hf ht).armed, (h hf ht).read⟩
  | stopTimer =>
    obtain ⟨htimeout, rfl, -⟩ := ite_pair_inj hs
    have hwake := ha.deasserted htimeout
    refine ⟨fun hassert ↦ ?_, fun harmed ↦ ?_, (h hf ht).read⟩
    · simp [hwake] at hassert
    · -- the mutex keeps `Send` out
      simp only at harmed
      have hmutex := ha.mutex (by simp [harmed])
      simp [htimeout] at hmutex

/-! ## What the history says -/

/-- The wake signal and the flag, as the history has them. -/
structure Records (s : VendorInterface) (hist : List (Item Event Output)) : Prop where
  wake_eq : s.wake = (latest wakeOf hist).join
  flag : s.recentActivityFlag = false → latest activity hist ≠ some true
  sends : Always (fun pre x ↦ x = .out .hciSend → (latest wakeOf pre).join = some .assert) hist
  deasserts : Always (fun pre x ↦ x = .out (.setWakeState .deassert) →
    latest activity pre ≠ some true) hist

variable {hist : List (Item Event Output)}

/-- A step without calls. -/
theorem Records.silent (h : s.Records hist)
    (hwake : s'.wake = ((wakeOf (.event e)).or (latest wakeOf hist)).join)
    (hflag : s'.recentActivityFlag = false → (activity (.event e)).or (latest activity hist) ≠
      some true) : s'.Records (hist ++ entry e []) where
  wake_eq := by rw [hwake, latest_append, entry, List.map_nil, latest_singleton]
  flag := by
    rw [latest_append, entry, List.map_nil, latest_singleton]
    exact hflag
  sends := by
    rw [entry, List.map_nil, always_concat]
    exact ⟨h.sends, by simp⟩
  deasserts := by
    rw [entry, List.map_nil, always_concat]
    exact ⟨h.deasserts, by simp⟩

/-- A step that the history says nothing about. -/
theorem Records.quiet (h : s.Records hist) (hwake : s'.wake = s.wake)
    (hflag : s'.recentActivityFlag = s.recentActivityFlag) (hw : wakeOf (.event e) = none)
    (ha : activity (.event e) = none) : s'.Records (hist ++ entry e []) := by
  refine h.silent ?_ fun hf ↦ ?_
  · rw [hwake, h.wake_eq, hw, Option.none_or]
  · rw [ha, Option.none_or]
    exact h.flag (hflag ▸ hf)

theorem records_initial : initial.Records [] where
  wake_eq := rfl
  flag := by simp
  sends := always_nil _
  deasserts := always_nil _

/-- One step keeps wake signal and flag as the history has them. -/
theorem Records.step (h : s.Records hist) (ha : s.Agrees) (hs : s.step e = some (s', outs)) :
    s'.Records (hist ++ entry e outs) := by
  cases e with
  | initializeInterface opens =>
    rw [VendorInterface.step] at hs
    split at hs
    · obtain ⟨rfl, rfl⟩ := some_pair_inj hs
      exact h.quiet rfl rfl rfl rfl
    · split at hs
      · obtain ⟨rfl, rfl⟩ := some_pair_inj hs
        exact h.quiet rfl rfl rfl rfl
      · obtain ⟨rfl, rfl⟩ := some_pair_inj hs
        exact h.quiet rfl rfl rfl rfl
  | shutdown =>
    obtain ⟨-, rfl, rfl⟩ := ite_pair_inj hs
    exact h.silent rfl h.flag
  | send =>
    obtain ⟨-, rfl, rfl⟩ := ite_pair_inj hs
    exact h.silent h.wake_eq (by simp)
  | configureTimeout =>
    rw [VendorInterface.step] at hs
    split at hs
    · obtain ⟨rfl, rfl⟩ := some_pair_inj hs
      exact h.quiet rfl rfl rfl rfl
    · cases hs
  | assertWake =>
    obtain ⟨-, rfl, rfl⟩ := ite_pair_inj hs
    rw [append_entry, List.map_singleton]
    refine ⟨?_, ?_, ?_, ?_⟩
    · rw [latest_concat]
      rfl
    · rw [latest_concat, latest_concat]
      exact h.flag
    · rw [always_concat, always_concat]
      exact ⟨⟨h.sends, by simp⟩, by simp⟩
    · rw [always_concat, always_concat]
      exact ⟨⟨h.deasserts, by simp⟩, by simp⟩
  | hciSend =>
    obtain ⟨hawake, rfl, rfl⟩ := ite_pair_inj hs
    rw [append_entry, List.map_singleton]
    refine ⟨?_, ?_, ?_, ?_⟩
    · rw [latest_concat, latest_concat]
      exact h.wake_eq
    · rw [latest_concat, latest_concat]
      exact h.flag
    · rw [always_concat, always_concat]
      refine ⟨⟨h.sends, by simp⟩, fun _ ↦ ?_⟩
      rw [latest_concat]
      exact h.wake_eq.symm.trans (ha.awake hawake)
    · rw [always_concat, always_concat]
      exact ⟨⟨h.deasserts, by simp⟩, by simp⟩
  | getIdleTimeout timeoutMs | startWatchdog | expire | stopTimer =>
    obtain ⟨-, rfl, rfl⟩ := ite_pair_inj hs
    exact h.quiet rfl rfl rfl rfl
  | onTimeout =>
    obtain ⟨-, hs⟩ := Option.ite_none_right_eq_some.mp hs
    split at hs
    · obtain ⟨rfl, rfl⟩ := some_pair_inj hs
      exact h.quiet rfl rfl rfl rfl
    · next hactive =>
      obtain ⟨rfl, rfl⟩ := some_pair_inj hs
      have hflag := h.flag (Bool.eq_false_iff.mpr hactive)
      rw [append_entry, List.map_singleton]
      refine ⟨?_, ?_, ?_, ?_⟩
      · rw [latest_concat]
        rfl
      · rw [latest_concat, latest_concat]
        exact h.flag
      · rw [always_concat, always_concat]
        exact ⟨⟨h.sends, by simp⟩, by simp⟩
      · rw [always_concat, always_concat]
        refine ⟨⟨h.deasserts, by simp⟩, fun _ ↦ ?_⟩
        rw [latest_concat]
        exact hflag
  | clearFlag =>
    obtain ⟨-, rfl, rfl⟩ := ite_pair_inj hs
    exact h.silent h.wake_eq (fun _ ↦ by simp [activity])

/-- The wake protocol holds in every run in which `OnFirmwareConfigured` does not come in
between. -/
theorem wakes_of_run (h : Run step InOrder initial hist s) : s.Wakes hist := by
  have hinv := h.invariant (I := fun hist s ↦ s.Agrees ∧ s.Records hist ∧
    (s.firmware = .configured → s.lpmTimeoutMs ≠ 0 → s.Armed))
    ⟨agrees_initial, records_initial, fun hf ↦ by cases hf⟩ ?_
  · obtain ⟨-, hrec, harmed⟩ := hinv
    refine ⟨hrec.sends, hrec.deasserts, fun hf ht hwake ↦ (harmed hf ht).asserted ?_⟩
    rw [hrec.wake_eq, hwake]
  · rintro hist s e s' outs ⟨hagrees, hrec, harmed⟩ hg hs
    exact ⟨hagrees.step hs, hrec.step hagrees hs, Armed.step harmed hagrees hg hs⟩

/-- A session: the library sends while it configures the firmware, and two time-outs later wake is
taken back. A new session starts with the flags of the old one. -/
theorem wakes_of_run_session :
    ∃ hist s, Run step InOrder initial hist s ∧
      (outsOf hist = [.setWakeState .assert, .hciSend, .setWakeState .deassert,
        .setWakeState .assert, .hciSend] ∧ s.timer = 500) ∧ s.Wakes hist := by
  obtain ⟨hist, s, hrun, hend⟩ := Run.exists_of_runEvents step InOrder initial
    [.initializeInterface true, .send, .configureTimeout, .assertWake, .hciSend,
      .getIdleTimeout 500, .startWatchdog, .expire, .onTimeout, .clearFlag, .expire, .onTimeout,
      .stopTimer, .clearFlag, .shutdown, .initializeInterface true, .send, .configureTimeout,
      .assertWake, .hciSend]
    (fun hist s ↦ outsOf hist = [.setWakeState .assert, .hciSend, .setWakeState .deassert,
      .setWakeState .assert, .hciSend] ∧ s.timer = 500) (by decide +kernel)
  exact ⟨hist, s, hrun, hend, wakes_of_run hrun⟩

/-- A `Send` that has read the timeout as 0 switches the timer off that `OnFirmwareConfigured` has
just armed. -/
theorem not_wakes : ¬∀ hist s, Run step (fun _ _ ↦ True) initial hist s → s.Wakes hist := by
  intro hwakes
  obtain ⟨hist, s, hrun, hf, ht, hwake, htimer⟩ :=
    Run.exists_of_runEvents step (fun _ _ ↦ True) initial
    [.initializeInterface true, .send, .getIdleTimeout 500, .startWatchdog, .configureTimeout,
      .assertWake, .hciSend]
    (fun hist s ↦ s.firmware = .configured ∧ s.lpmTimeoutMs ≠ 0 ∧
      (latest wakeOf hist).join = some .assert ∧ s.timer = 0) (by decide +kernel)
  exact (hwakes hist s hrun).armed hf ht hwake htimer

end VendorInterface

end MataDevice.Bluetooth.Lpm
