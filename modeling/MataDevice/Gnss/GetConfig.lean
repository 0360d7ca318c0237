import MataDevice.Gnss.ConfigFlags

/-!
# The answers to a request for the configuration

`gnssGetConfigCommand` returns one session id for each flag of its mask, and the client waits for an
answer to each of them. The flags up to `EMERGENCY_EXTENSION_SECONDS` are answered at once, by the
entries of one collective response. Each of the three flags above them is a request to the modem,
whose answer is passed on with the id at the running index; the index is not advanced after it.

So the ids are answered once each for the masks with at most one of these three flags, and with no
flag above them: two of the three share one id, and nothing is ever said about the flags above.
-/

namespace MataDevice.Gnss

open List
open MataDevice.Tracking (LocationError)

namespace GetConfig

/-- `LocationControlCallbacks`, as far as it is called here; `false` stands for `nullptr`. -/
structure LocationControlCallbacks where
  size : ℕ
  responseCb : Bool
  collectiveResponseCb : Bool

/-- A call of the control client's callbacks. -/
inductive Callback
  | responseCb (err : LocationError) (id : ℕ)
  | collectiveResponseCb (count : ℕ) (errs : List LocationError) (ids : List ℕ)
  deriving DecidableEq, Repr

namespace LocationControlCallbacks

variable (callbacks : LocationControlCallbacks)

/-- `reportResponse(err, sessionId)` -/
def reportResponse (err : LocationError) (sessionId : ℕ) : List Callback :=
  if callbacks.size > 0 && callbacks.responseCb then [.responseCb err sessionId] else []

/-- `reportResponse(count, errs, ids)` -/
def reportCollectiveResponse (count : ℕ) (errs : List LocationError) (ids : List ℕ) :
    List Callback :=
  if callbacks.size > 0 && callbacks.collectiveResponseCb then
    [.collectiveResponseCb count errs ids]
  else []

/-- The client has given the callbacks that are mandatory. -/
def Given : Prop :=
  0 < callbacks.size ∧ callbacks.responseCb = true ∧ callbacks.collectiveResponseCb = true

instance : Decidable callbacks.Given :=
  inferInstanceAs (Decidable (_ ∧ _))

end LocationControlCallbacks

/-- The ids that a callback is an answer to. -/
def Callback.ids : Callback → List ℕ
  | responseCb _ id => [id]
  | collectiveResponseCb count _ ids => ids.take count

/-- What the message calls. -/
inductive Call
  | getBlacklistSv
  | getRobustLocationConfig (sessionId : ℕ)
  | getMinGpsWeek (sessionId : ℕ)
  | getParameter (sessionId : ℕ) (flags : GnssConfigFlag)
  | reportResponse (count : ℕ) (errs : List LocationError) (ids : List ℕ)
  deriving DecidableEq, Repr

/-- The id with which the modem's answer to the call is reported. -/
def Call.sessionId : Call → Option ℕ
  | getRobustLocationConfig sessionId | getMinGpsWeek sessionId | getParameter sessionId _ =>
    some sessionId
  | getBlacklistSv | reportResponse .. => none

section Proc

variable (mConfigMask : GnssConfigFlagsMask) (mIds : List ℕ)

/-- `errs[index++] = err` for a flag; `index` is the length of what has been written. -/
def putError (flag : GnssConfigFlag) (err : LocationError) (errs : List LocationError) :
    List LocationError :=
  if mConfigMask.has flag then
    if errs.length < mIds.length then errs ++ [err] else errs
  else errs

/-- The request to the modem for a flag; no result stands for a read past the ids. -/
def request (flag : GnssConfigFlag) (index : ℕ) (call : ℕ → Call) : Option (List Call) :=
  if mConfigMask.has flag then
    match mIds[index]? with
    | none => none
    | some sessionId => some [call sessionId]
  else some []

/-- The flags that cannot be read. -/
def notSupportedFlags : List GnssConfigFlag :=
  [.gpsLock, .suplVersion, .setAssistanceData, .lppProfile, .lppeControlPlane, .lppeUserPlane,
    .aglonassPositionProtocol, .emPdnForEmSupl, .suplEmServices, .suplMode]

/-- The errors of the collective response. -/
def collectErrors (isFeatureSupported : Bool) : List LocationError :=
  let errs := notSupportedFlags.foldl
    (fun errs flag ↦ putError mConfigMask mIds flag .notSupported errs) []
  let errs := putError mConfigMask mIds .blacklistedSvIds
    (if isFeatureSupported then .success else .notSupported) errs
  putError mConfigMask mIds .emergencyExtensionSeconds .notSupported errs

/-- `MsgGnssGetConfig::proc` when the capabilities of the engine are known; `isFeatureSupported` is
about `LOC_SUPPORTED_FEATURE_CONSTELLATION_ENABLEMENT_V02`. -/
def proc (isFeatureSupported : Bool) : Option (List Call) := do
  let errs := collectErrors mConfigMask mIds isFeatureSupported
  let index := errs.length
  let blacklist :=
    if mConfigMask.has .blacklistedSvIds && isFeatureSupported then [Call.getBlacklistSv] else []
  let robust ← request mConfigMask mIds .robustLocation index .getRobustLocationConfig
  let week ← request mConfigMask mIds .minGpsWeek index .getMinGpsWeek
  let elevation ← request mConfigMask mIds .minSvElevation index
    (fun sessionId ↦ .getParameter sessionId .minSvElevation)
  return blacklist ++ robust ++ week ++ elevation ++ [.reportResponse index errs mIds]

end Proc

/-- What the client has received, and the requests that the modem has not answered yet, by the ids
with which their answers are reported. -/
structure State where
  outstanding : List ℕ
  received : List Callback
  deriving DecidableEq, Repr

section Run

variable (callbacks : LocationControlCallbacks)

def State.call (s : State) : Call → State
  | .reportResponse count errs ids =>
    { s with received := s.received ++ callbacks.reportCollectiveResponse count errs ids }
  | call => { s with outstanding := s.outstanding ++ call.sessionId.toList }

/-- The modem answers one of the requests. -/
def State.returnToSender (s : State) (i : ℕ) (err : LocationError) : Option State :=
  match s.outstanding[i]? with
  | none => none
  | some sessionId => some
    { outstanding := s.outstanding.eraseIdx i
      received := s.received ++ callbacks.reportResponse err sessionId }

/-- The answers of the modem, in the order in which they come. -/
def State.run (s : State) : List (ℕ × LocationError) → Option State
  | [] => some s
  | (i, err) :: answers => do (← s.returnToSender callbacks i err).run answers

end Run

/-- `gnssGetConfigCommand`: the ids that it returns. -/
def gnssGetConfigCommand (counter : SessionIdCounter) (configMask : GnssConfigFlagsMask) : List ℕ :=
  generateSessionIds (countFlags 32 configMask) counter

/-- The state after the message of a command has been processed; there is none without flags. -/
def processed (callbacks : LocationControlCallbacks) (isFeatureSupported : Bool)
    (counter : SessionIdCounter) (configMask : GnssConfigFlagsMask) : Option State :=
  let ids := gnssGetConfigCommand counter configMask
  if ids = [] then some ⟨[], []⟩
  else do
    let calls ← proc configMask ids isFeatureSupported
    return calls.foldl (State.call callbacks) ⟨[], []⟩

/-- How often an id is answered. -/
def State.answers (s : State) (id : ℕ) : ℕ :=
  (s.received.flatMap Callback.ids).count id

/-- The flags that are answered by the modem. -/
def requestFlags : List GnssConfigFlag := [.robustLocation, .minGpsWeek, .minSvElevation]

/-- At most one flag is answered by the modem, and none stands above these. -/
def PlacesFit (configMask : GnssConfigFlagsMask) : Prop :=
  requestFlags.countP configMask.has ≤ 1 ∧
    ∀ i < 32, 15 ≤ i → configMask.getLsbD i = false

instance (configMask : GnssConfigFlagsMask) : Decidable (PlacesFit configMask) :=
  inferInstanceAs (Decidable (_ ∧ _))

/-! ## What is called for a mask -/

/-- The flags that are answered by the collective response. -/
def collectiveFlags : List GnssConfigFlag :=
  notSupportedFlags ++ [.blacklistedSvIds, .emergencyExtensionSeconds]

section Proc

variable (mConfigMask : GnssConfigFlagsMask) {mIds : List ℕ}

theorem countP_has_cons (flag : GnssConfigFlag) (flags : List GnssConfigFlag) :
    (flag :: flags).countP mConfigMask.has =
      (mConfigMask.has flag).toNat + flags.countP mConfigMask.has := by
  rw [countP_cons]
  cases mConfigMask.has flag
  · rw [Bool.toNat_false, Nat.zero_add]
    rfl
  · rw [Bool.toNat_true, Nat.add_comm]
    rfl

theorem length_putError {flag : GnssConfigFlag} {errs : List LocationError} (err : LocationError)
    (h : errs.length + (mConfigMask.has flag).toNat ≤ mIds.length) :
    (putError mConfigMask mIds flag err errs).length =
      errs.length + (mConfigMask.has flag).toNat := by
  rw [putError]
  cases hflag : mConfigMask.has flag
  · rfl
  · rw [hflag, Bool.toNat_true] at h
    rw [if_pos rfl, if_pos (by omega), length_append, length_singleton,
      Bool.toNat_true]

theorem length_foldl_putError {flags : List GnssConfigFlag} {errs : List LocationError}
    (err : LocationError) (h : errs.length + flags.countP mConfigMask.has ≤ mIds.length) :
    (flags.foldl (fun errs flag ↦ putError mConfigMask mIds flag err errs) errs).length =
      errs.length + flags.countP mConfigMask.has := by
  induction flags generalizing errs with
  | nil => rfl
  | cons flag flags ih =>
    rw [countP_has_cons] at h ⊢
    have hput : (putError mConfigMask mIds flag err errs).length =
        errs.length + (mConfigMask.has flag).toNat :=
      length_putError mConfigMask err (by omega)
    rw [foldl_cons, ih (by omega), hput, Nat.add_assoc]

theorem length_collectErrors (isFeatureSupported : Bool)
    (h : collectiveFlags.countP mConfigMask.has ≤ mIds.length) :
    (collectErrors mConfigMask mIds isFeatureSupported).length =
      collectiveFlags.countP mConfigMask.has := by
  rw [collectiveFlags, countP_append, countP_has_cons, countP_has_cons, countP_nil] at h ⊢
  have hfold : (notSupportedFlags.foldl (fun errs flag ↦
      putError mConfigMask mIds flag .notSupported errs) []).length =
        notSupportedFlags.countP mConfigMask.has := by
    rw [length_foldl_putError, length_nil, Nat.zero_add]
    rw [length_nil]
    omega
  rw [collectErrors, length_putError, length_putError, hfold, Nat.add_assoc, Nat.add_zero]
  · omega
  · rw [length_putError] <;> omega

theorem request_eq {flag : GnssConfigFlag} {index sessionId : ℕ} (call : ℕ → Call)
    (h : mConfigMask.has flag = true → mIds[index]? = some sessionId) :
    request mConfigMask mIds flag index call =
      some (List.replicate (mConfigMask.has flag).toNat (call sessionId)) := by
  rw [request]
  cases hflag : mConfigMask.has flag
  · rfl
  · rw [if_pos rfl, h hflag]
    rfl

variable (callbacks : LocationControlCallbacks)

theorem foldl_call_replicate {call : Call} {sessionId : ℕ} (n : ℕ) (s : State)
    (h : call.sessionId = some sessionId) :
    (List.replicate n call).foldl (State.call callbacks) s =
      { s with outstanding := s.outstanding ++ List.replicate n sessionId } := by
  induction n generalizing s with
  | zero => simp
  | succ n ih =>
    have hcall : s.call callbacks call =
        { s with outstanding := s.outstanding ++ [sessionId] } := by
      cases call <;> simp_all [State.call, Call.sessionId]
    rw [replicate_succ, foldl_cons, ih, hcall, replicate_succ]
    simp

/-- The message asks the modem once for each of its flags, every time with the id that follows those
of the collective response. -/
theorem foldl_call_proc (hcallbacks : callbacks.Given) (isFeatureSupported : Bool) {sessionId : ℕ}
    (hlen : collectiveFlags.countP mConfigMask.has ≤ mIds.length)
    (hid : 0 < requestFlags.countP mConfigMask.has →
      mIds[collectiveFlags.countP mConfigMask.has]? = some sessionId) :
    ∃ calls errs, proc mConfigMask mIds isFeatureSupported = some calls ∧
      calls.foldl (State.call callbacks) ⟨[], []⟩ =
        ⟨List.replicate (requestFlags.countP mConfigMask.has) sessionId,
          [.collectiveResponseCb (collectiveFlags.countP mConfigMask.has) errs mIds]⟩ := by
  have hcount : requestFlags.countP mConfigMask.has =
      (mConfigMask.has .robustLocation).toNat + ((mConfigMask.has .minGpsWeek).toNat +
        (mConfigMask.has .minSvElevation).toNat) := by
    rw [requestFlags, countP_has_cons, countP_has_cons, countP_has_cons, countP_nil,
      Nat.add_zero]
  have hget : ∀ flag ∈ requestFlags, mConfigMask.has flag = true →
      mIds[collectiveFlags.countP mConfigMask.has]? = some sessionId := by
    intro flag hmem hflag
    exact hid (countP_pos_iff.mpr ⟨flag, hmem, hflag⟩)
  rw [proc, length_collectErrors mConfigMask isFeatureSupported hlen,
    request_eq mConfigMask _ (hget .robustLocation (by simp [requestFlags])),
    request_eq mConfigMask _ (hget .minGpsWeek (by simp [requestFlags])),
    request_eq mConfigMask _ (hget .minSvElevation (by simp [requestFlags]))]
  refine ⟨_, collectErrors mConfigMask mIds isFeatureSupported, rfl, ?_⟩
  have hblacklist : (if mConfigMask.has .blacklistedSvIds && isFeatureSupported then
      [Call.getBlacklistSv] else []).foldl (State.call callbacks) ⟨[], []⟩ = ⟨[], []⟩ := by
    split_ifs <;> rfl
  rw [foldl_append, foldl_append, foldl_append, foldl_append, hblacklist,
    foldl_call_replicate callbacks _ _ rfl, foldl_call_replicate callbacks _ _ rfl,
    foldl_call_replicate callbacks _ _ rfl, hcount]
  obtain ⟨hsize, -, hcollective⟩ := hcallbacks
  simp [State.call, LocationControlCallbacks.reportCollectiveResponse, hsize, hcollective,
    Nat.add_assoc]

end Proc

/-! ## The answers of a whole run -/

theorem State.run_answers {callbacks : LocationControlCallbacks} (hcallbacks : callbacks.Given)
    {answers : List (ℕ × LocationError)} {s s' : State} (h : s.run callbacks answers = some s')
    (hdone : s'.outstanding = []) :
    (s'.received.flatMap Callback.ids).Perm (s.received.flatMap Callback.ids ++ s.outstanding) := by
  induction answers generalizing s with
  | nil =>
    obtain rfl : s = s' := Option.some.inj h
    rw [hdone, List.append_nil]
  | cons answer answers ih =>
    obtain ⟨i, err⟩ := answer
    rw [run, returnToSender] at h
    cases hi : s.outstanding[i]? with
    | none =>
      rw [hi] at h
      cases h
    | some sessionId =>
      rw [hi] at h
      have hperm := ih h
      obtain ⟨hlt, hget⟩ := List.getElem?_eq_some_iff.mp hi
      have herase := getElem_cons_eraseIdx_perm hlt
      rw [hget] at herase
      obtain ⟨hsize, hresponse, -⟩ := hcallbacks
      simp only [LocationControlCallbacks.reportResponse, hsize, hresponse, decide_true,
        Bool.and_self, if_true, flatMap_append, append_assoc] at hperm
      exact hperm.trans (herase.append_left _)

/-- Ids that are all different are answered once each iff the answers are these ids in
some order. -/
theorem forall_count_eq_one_iff_perm {ids answers : List ℕ} (hids : ids.Nodup)
    (hsub : ∀ id ∈ answers, id ∈ ids) :
    (∀ id ∈ ids, answers.count id = 1) ↔ answers.Perm ids := by
  constructor
  · intro h
    rw [perm_iff_count]
    intro id
    by_cases hid : id ∈ ids
    · rw [h id hid, count_eq_one_of_mem hids hid]
    · rw [count_eq_zero_of_not_mem hid, count_eq_zero_of_not_mem (hid ∘ hsub id)]
  · intro h id hid
    rw [h.count_eq, count_eq_one_of_mem hids hid]

theorem countFlags_eq (mask : GnssConfigFlagsMask) :
    countFlags 32 mask = collectiveFlags.countP mask.has + requestFlags.countP mask.has +
      (List.range 17).countP (fun i ↦ mask.getLsbD (15 + i)) := by
  have hcollective : collectiveFlags.countP mask.has = (List.range 12).countP mask.getLsbD := by
    rw [show List.range 12 = collectiveFlags.map GnssConfigFlag.bit from rfl, countP_map]
    rfl
  have hrequest : requestFlags.countP mask.has = [12, 13, 14].countP mask.getLsbD := by
    rw [show [12, 13, 14] = requestFlags.map GnssConfigFlag.bit from rfl, countP_map]
    rfl
  have hrange : List.range 32 = List.range 12 ++ [12, 13, 14] ++ (List.range 17).map (15 + ·) := rfl
  rw [countFlags_eq_countP, hrange, countP_append, countP_append, countP_map,
    hcollective, hrequest]
  rfl

theorem countP_above_eq_zero_iff (mask : GnssConfigFlagsMask) :
    (List.range 17).countP (fun i ↦ mask.getLsbD (15 + i)) = 0 ↔
      ∀ i < 32, 15 ≤ i → mask.getLsbD i = false := by
  rw [countP_eq_zero]
  constructor
  · intro h i hi hle
    have := h (i - 15) (mem_range.mpr (by omega))
    rw [Nat.add_sub_cancel' hle] at this
    simpa using this
  · intro h i hi
    have hi' := mem_range.mp hi
    simp [h (15 + i) (by omega) (by omega)]

/-- The places of the collective response and of the modem's answers are those of the ids. -/
theorem forall_count_take_append_replicate_iff {ids : List ℕ} (hids : ids.Nodup)
    {m k r sessionId : ℕ} (hlen : ids.length = m + k + r)
    (hid : 0 < k → ids[m]? = some sessionId) :
    (∀ id ∈ ids, (ids.take m ++ List.replicate k sessionId).count id = 1) ↔ k ≤ 1 ∧ r = 0 := by
  rw [forall_count_eq_one_iff_perm hids]
  · nth_rewrite 2 [← take_append_drop m ids]
    rw [perm_append_left_iff]
    constructor
    · intro h
      have hlength := h.length_eq
      rw [length_replicate, length_drop] at hlength
      have hnodup := h.nodup_iff.mpr (hids.sublist (drop_sublist m ids))
      exact ⟨nodup_replicate.mp hnodup, by omega⟩
    · rintro ⟨hk, hr⟩
      obtain rfl | rfl : k = 0 ∨ k = 1 := by omega
      · rw [drop_eq_nil_of_le (by omega)]
        rfl
      · obtain ⟨hlt, hget⟩ := List.getElem?_eq_some_iff.mp (hid Nat.one_pos)
        rw [drop_eq_getElem_cons hlt, hget, drop_eq_nil_of_le (by omega)]
        rfl
  · intro id hmem
    rcases mem_append.mp hmem with hmem | hmem
    · exact mem_of_mem_take hmem
    · obtain ⟨hk, rfl⟩ := mem_replicate.mp hmem
      exact mem_of_getElem? (hid (Nat.pos_of_ne_zero hk))

end GetConfig

end MataDevice.Gnss
