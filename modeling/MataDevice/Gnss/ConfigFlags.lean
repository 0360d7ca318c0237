import Mathlib.Data.List.Count
import Mathlib.Data.List.Nodup
import Mathlib.Logic.Function.Iterate
import MataDevice.Tracking.System

/-!
# The flags of a configuration request

`gnssUpdateConfigCommand` and `gnssGetConfigCommand` take a mask of flags, count the bits that are
set in it and make one session id for each of them. The ids of one request are different from each
other, also when the counter starts again in the middle of them.
-/

namespace MataDevice.Gnss

open List
open MataDevice.Tracking (generateSessionId)

inductive GnssSvType
  | unknown
  | gps
  | sbas
  | glonass
  | qzss
  | beidou
  | galileo
  | navic
  deriving DecidableEq, Repr

/-- `GnssConfigFlagsBits`, in the order of the bits. -/
inductive GnssConfigFlag
  | gpsLock
  | suplVersion
  | setAssistanceData
  | lppProfile
  | lppeControlPlane
  | lppeUserPlane
  | aglonassPositionProtocol
  | emPdnForEmSupl
  | suplEmServices
  | suplMode
  | blacklistedSvIds
  | emergencyExtensionSeconds
  | robustLocation
  | minGpsWeek
  | minSvElevation
  | constellationSecondaryBand
  deriving DecidableEq, Repr

namespace GnssConfigFlag

def bit : GnssConfigFlag → ℕ
  | gpsLock => 0
  | suplVersion => 1
  | setAssistanceData => 2
  | lppProfile => 3
  | lppeControlPlane => 4
  | lppeUserPlane => 5
  | aglonassPositionProtocol => 6
  | emPdnForEmSupl => 7
  | suplEmServices => 8
  | suplMode => 9
  | blacklistedSvIds => 10
  | emergencyExtensionSeconds => 11
  | robustLocation => 12
  | minGpsWeek => 13
  | minSvElevation => 14
  | constellationSecondaryBand => 15

/-- The flags from the lowest bit to the highest one. -/
def all : List GnssConfigFlag :=
  [gpsLock, suplVersion, setAssistanceData, lppProfile, lppeControlPlane, lppeUserPlane,
    aglonassPositionProtocol, emPdnForEmSupl, suplEmServices, suplMode, blacklistedSvIds,
    emergencyExtensionSeconds, robustLocation, minGpsWeek, minSvElevation,
    constellationSecondaryBand]

theorem getElem?_all_bit (flag : GnssConfigFlag) : all[flag.bit]? = some flag := by
  cases flag <;> rfl

theorem bit_injective : Function.Injective bit := by
  intro flag flag' h
  have heq := getElem?_all_bit flag
  rw [h, getElem?_all_bit flag'] at heq
  exact (Option.some.inj heq).symm

theorem bit_lt (flag : GnssConfigFlag) : flag.bit < 32 := by
  cases flag <;> decide

end GnssConfigFlag

abbrev GnssConfigFlagsMask := BitVec 32

/-- Whether `mask & flag` is not zero. -/
def GnssConfigFlagsMask.has (mask : GnssConfigFlagsMask) (flag : GnssConfigFlag) : Bool :=
  mask.getLsbD flag.bit

/-- `mask & ~flag` -/
def GnssConfigFlagsMask.clear (mask : GnssConfigFlagsMask) (flag : GnssConfigFlag) :
    GnssConfigFlagsMask :=
  mask &&& ~~~(BitVec.twoPow 32 flag.bit)

@[simp] theorem GnssConfigFlagsMask.has_clear (mask : GnssConfigFlagsMask)
    (flag flag' : GnssConfigFlag) :
    (mask.clear flag).has flag' = (mask.has flag' && decide (flag' ≠ flag)) := by
  have heq : flag'.bit = flag.bit ↔ flag' = flag := GnssConfigFlag.bit_injective.eq_iff
  simp [has, clear, flag'.bit_lt, heq]

/-- The loop that counts the bits; `fuel` bounds how often it goes round. -/
def countFlags : ℕ → GnssConfigFlagsMask → ℕ
  | 0, _ => 0
  | fuel + 1, flagsCopy =>
    if flagsCopy = 0 then 0
    else (if flagsCopy.getLsbD 0 then 1 else 0) + countFlags fuel (flagsCopy >>> 1)

theorem countFlags_eq_countP (fuel : ℕ) (mask : GnssConfigFlagsMask) :
    countFlags fuel mask = (List.range fuel).countP mask.getLsbD := by
  induction fuel generalizing mask with
  | zero => rfl
  | succ fuel ih =>
    rw [countFlags]
    by_cases hzero : mask = 0
    · rw [if_pos hzero, eq_comm, countP_eq_zero]
      simp [hzero]
    · have hshift : mask.getLsbD ∘ Nat.succ = (mask >>> 1).getLsbD := by
        funext i
        simp [Nat.add_comm]
      rw [if_neg hzero, range_succ_eq_map, countP_cons, countP_map, hshift, ih,
        Nat.add_comm]

/-! ## The session ids -/

/-- The counter of `LocAdapterBase`, which starts at 1. -/
structure SessionIdCounter where
  val : ℕ
  pos : 1 ≤ val
  lt : val < 0xFFFFFFFF

/-- `LocAdapterBase::generateSessionId` -/
def SessionIdCounter.next (counter : SessionIdCounter) : SessionIdCounter where
  val := generateSessionId counter.val
  pos := by
    rw [generateSessionId]
    split_ifs <;> omega
  lt := by
    have := counter.lt
    rw [generateSessionId]
    split_ifs <;> omega

/-- The ids that a command makes for `count` flags, in the order of their places. -/
def generateSessionIds : ℕ → SessionIdCounter → List ℕ
  | 0, _ => []
  | count + 1, counter => counter.next.val :: generateSessionIds count counter.next

@[simp] theorem length_generateSessionIds (count : ℕ) (counter : SessionIdCounter) :
    (generateSessionIds count counter).length = count := by
  induction count generalizing counter with
  | zero => rfl
  | succ count ih => rw [generateSessionIds, length_cons, ih]

/-- The counter goes round the numbers from 1 to `0xFFFFFFFE`. -/
theorem SessionIdCounter.next_val (counter : SessionIdCounter) :
    counter.next.val = counter.val % 0xFFFFFFFE + 1 := by
  have hlt := counter.lt
  simp only [next, generateSessionId]
  split_ifs with h <;> omega

theorem getElem?_generateSessionIds {count i : ℕ} (counter : SessionIdCounter) (hi : i < count) :
    (generateSessionIds count counter)[i]? = some ((counter.val + i) % 0xFFFFFFFE + 1) := by
  induction count generalizing counter i with
  | zero => omega
  | succ count ih =>
    cases i with
    | zero => simp [generateSessionIds, counter.next_val]
    | succ i =>
      rw [generateSessionIds, getElem?_cons_succ, ih counter.next (by omega),
        counter.next_val]
      congr 1
      omega

theorem nodup_generateSessionIds {count : ℕ} (hcount : count ≤ 32) (counter : SessionIdCounter) :
    (generateSessionIds count counter).Nodup := by
  rw [nodup_iff_getElem?_ne_getElem?]
  intro i j hij hj
  rw [length_generateSessionIds] at hj
  rw [getElem?_generateSessionIds counter (hij.trans hj), getElem?_generateSessionIds counter hj]
  intro heq
  have := Option.some.inj heq
  omega

end MataDevice.Gnss
