import Mathlib.Tactic.Ring

/-!
# BackoffSequence

A timeout is twice the one before, up to `maxRetransTime`, and the sequence ends with
`maxRetransCount` timeouts or when they add up to `maxRetransDuration`. What is left of the
duration is computed from the last timeout and not from the total, which is right for the first
two timeouts only.

`std::numeric_limits` is not specialised for a `std::chrono::duration`, so there the value that
replaces a timeout after an overflow is 0. The default constructor sets no member but the
parameters.
-/

namespace Netd.Backoff

open List

/-- An integer type, or a `std::chrono::duration` over one, with its digits besides the sign. -/
structure TimeType where
  isDuration : Bool
  signed : Bool
  digits : Nat

def TimeType.largest (T : TimeType) : Int := 2 ^ T.digits - 1

/-- The arithmetic wraps around. -/
def TimeType.wrap (T : TimeType) (n : Int) : Int :=
  if T.signed then n.bmod (2 ^ (T.digits + 1)) else n % 2 ^ T.digits

/-- `std::numeric_limits<time_type>::max()`, which is `T()` without a specialisation. -/
def TimeType.numericLimitsMax (T : TimeType) : Int := if T.isDuration then 0 else T.largest

structure Parameters where
  initialRetransTime : Int := 1
  maxRetransCount : Nat := 0
  maxRetransTime : Int := 0
  maxRetransDuration : Int := 0
  endOfSequenceIndicator : Int := 0

/-- The count is only compared with `maxRetransCount`, and does not pass it. -/
structure BackoffSequence where
  mParams : Parameters
  mRetransCount : Nat := 0
  mRetransTime : Int := 0
  mTotalRetransDuration : Int := 0

namespace BackoffSequence

def maxRetransCountExceed (b : BackoffSequence) : Bool :=
  b.mParams.maxRetransCount > 0 && b.mRetransCount ≥ b.mParams.maxRetransCount

def maxRetransDurationExceeded (b : BackoffSequence) : Bool :=
  b.mParams.maxRetransDuration > 0 && b.mTotalRetransDuration ≥ b.mParams.maxRetransDuration

def hasNextTimeout (b : BackoffSequence) : Bool :=
  !b.maxRetransCountExceed && !b.maxRetransDurationExceeded

end BackoffSequence

/-- The limit `maxRetransTime`. -/
def Parameters.cap (p : Parameters) (t : Int) : Int :=
  if p.maxRetransTime > 0 then min t p.maxRetransTime else t

def getNextTimeoutAfter (T : TimeType) (p : Parameters) (lastTimeout : Int) : Int :=
  let nextTimeout := if lastTimeout > 0 then T.wrap (2 * lastTimeout) else p.initialRetransTime
  let nextTimeout := if nextTimeout < lastTimeout then T.numericLimitsMax else nextTimeout
  let nextTimeout := p.cap nextTimeout
  if p.maxRetransDuration > 0 then min nextTimeout (T.wrap (p.maxRetransDuration - lastTimeout))
  else nextTimeout

namespace BackoffSequence

def getNextTimeout (T : TimeType) (b : BackoffSequence) : Int × BackoffSequence :=
  if !b.hasNextTimeout then (b.mParams.endOfSequenceIndicator, b)
  else
    let time := getNextTimeoutAfter T b.mParams b.mRetransTime
    (time, ⟨b.mParams, b.mRetransCount + 1, time, T.wrap (b.mTotalRetransDuration + time)⟩)

/-- What the first `n` calls of `getNextTimeout` return before the sequence is exhausted. -/
def timeouts (T : TimeType) : Nat → BackoffSequence → List Int
  | 0, _ => []
  | n + 1, b =>
    if b.hasNextTimeout then (b.getNextTimeout T).1 :: timeouts T n (b.getNextTimeout T).2 else []

end BackoffSequence

/-- `Builder::build` -/
def Parameters.build (p : Parameters) : BackoffSequence := { mParams := p }

/-- `BackoffSequence() {}`, with what was in its memory. -/
def BackoffSequence.ofMemory (count : Nat) (time total : Int) : BackoffSequence :=
  ⟨{}, count, time, total⟩

open BackoffSequence

variable {T : TimeType} {p : Parameters} {count : Nat} {time duration : Int}

theorem timeouts_succ {next : Int} (h : hasNextTimeout ⟨p, count, time, duration⟩)
    (hnext : getNextTimeoutAfter T p time = next) (n : Nat) :
    timeouts T (n + 1) ⟨p, count, time, duration⟩ =
      next :: timeouts T n ⟨p, count + 1, next, T.wrap (duration + next)⟩ := by
  simp [timeouts, getNextTimeout, h, hnext]

theorem hasNextTimeout_iff : hasNextTimeout ⟨p, count, time, duration⟩ ↔
    (p.maxRetransCount = 0 ∨ count < p.maxRetransCount) ∧
      (p.maxRetransDuration ≤ 0 ∨ duration < p.maxRetransDuration) := by
  simp [hasNextTimeout, maxRetransCountExceed,
    maxRetransDurationExceeded, Nat.pos_iff_ne_zero, or_iff_not_imp_left]

theorem TimeType.wrap_of_le {n : Int} (h₀ : 0 ≤ n) (h : n ≤ T.largest) : T.wrap n = n := by
  have hpow : ((2 ^ (T.digits + 1) : Nat) : Int) = 2 * 2 ^ T.digits := by rw [pow_succ']; rfl
  unfold wrap
  unfold largest at h
  split
  · exact Int.bmod_eq_of_le (by omega) (by omega)
  · exact Int.emod_eq_of_lt h₀ (by omega)

/-- The timeout before the timeout `k` of `f`. -/
def previous (f : Nat → Int) : Nat → Int
  | 0 => 0
  | k + 1 => f k

/-! ## The duration -/

/-- The timeout `k` if it is not cut to the duration. -/
def Parameters.uncut (p : Parameters) (k : Nat) : Int := p.cap (p.initialRetransTime * 2 ^ k)

/-- The total of the first `n` timeouts if none is cut. -/
def Parameters.spent (p : Parameters) (n : Nat) : Int := ((range n).map p.uncut).sum

/-- The state after `n` timeouts of which none was cut. -/
def Parameters.unbroken (p : Parameters) (n : Nat) : BackoffSequence :=
  ⟨p, n, previous p.uncut n, p.spent n⟩

/-- The duration is never passed: the first two timeouts reach it, or some of them add up to it, or
the count ends the sequence before. -/
def Parameters.Fits (p : Parameters) : Prop :=
  p.initialRetransTime = 0 ∨ p.maxRetransDuration ≤ p.spent 2 ∨
    (∃ n, p.spent n = p.maxRetransDuration) ∨
    0 < p.maxRetransCount ∧ p.spent p.maxRetransCount ≤ p.maxRetransDuration

theorem spent_succ (p : Parameters) (n : Nat) : p.spent (n + 1) = p.spent n + p.uncut n := by
  simp [Parameters.spent, range_succ]

theorem spent_of_zero (hzero : p.initialRetransTime = 0) (n : Nat) : p.spent n = 0 := by
  induction n with
  | zero => rfl
  | succ n ih =>
    rw [spent_succ, ih, Parameters.uncut, Parameters.cap, hzero, zero_mul]
    split <;> omega

section Duration

variable (hI : 0 ≤ p.initialRetransTime)
include hI

theorem uncut_nonneg (k : Nat) : 0 ≤ p.uncut k := by
  have hpow : 0 ≤ p.initialRetransTime * 2 ^ k := Int.mul_nonneg hI (Int.pow_nonneg (by decide))
  unfold Parameters.uncut Parameters.cap
  split <;> omega

theorem spent_mono {m n : Nat} (hle : m ≤ n) : p.spent m ≤ p.spent n := by
  induction hle with
  | refl => exact Int.le_refl _
  | @step n _ ih =>
    have := uncut_nonneg hI n
    rw [spent_succ]
    omega

theorem spent_nonneg (n : Nat) : 0 ≤ p.spent n := spent_mono hI (Nat.zero_le n)

theorem previous_le_spent (n : Nat) :
    0 ≤ previous p.uncut n ∧ previous p.uncut n ≤ p.spent n := by
  cases n with
  | zero => exact ⟨le_rfl, le_rfl⟩
  | succ n =>
    have := spent_nonneg hI n
    have := uncut_nonneg hI n
    rw [spent_succ, previous]
    omega

omit hI in
theorem le_spent (hpos : 0 < p.initialRetransTime) (n : Nat) : n ≤ p.spent n := by
  induction n with
  | zero => exact le_rfl
  | succ n ih =>
    have hpow : 0 < p.initialRetransTime * 2 ^ n := Int.mul_pos hpos (Int.pow_pos (by decide))
    have hone : 1 ≤ p.uncut n := by
      unfold Parameters.uncut Parameters.cap
      split <;> omega
    rw [spent_succ]
    omega

theorem cap_double (n : Nat) :
    p.cap (if previous p.uncut n > 0 then 2 * previous p.uncut n else p.initialRetransTime) =
      p.uncut n := by
  cases n with
  | zero => simp [previous, Parameters.uncut]
  | succ k =>
    have hpow : p.initialRetransTime * 2 ^ (k + 1) = 2 * (p.initialRetransTime * 2 ^ k) := by ring
    have hnonneg : 0 ≤ p.initialRetransTime * 2 ^ k :=
      Int.mul_nonneg hI (Int.pow_nonneg (by decide))
    have hzero : p.initialRetransTime * 2 ^ k = 0 → p.initialRetransTime = 0 := fun h =>
      (Int.mul_eq_zero.mp h).resolve_right (Int.pow_pos (by decide)).ne'
    simp only [previous, Parameters.uncut, hpow]
    unfold Parameters.cap
    split <;> split <;> omega

variable (hD : 0 < p.maxRetransDuration)
include hD

theorem spent_lt_of_succ_le {n : Nat} (hn : p.spent (n + 1) ≤ p.maxRetransDuration) :
    p.spent n < p.maxRetransDuration := by
  rcases hI.eq_or_lt with hzero | hpos
  · have := spent_of_zero hzero.symm n
    omega
  · have hpow : 0 < p.initialRetransTime * 2 ^ n := Int.mul_pos hpos (Int.pow_pos (by decide))
    have hone : 0 < p.uncut n := by
      unfold Parameters.uncut Parameters.cap
      split <;> omega
    rw [spent_succ] at hn
    omega

variable (hlarge : 2 * p.maxRetransDuration ≤ T.largest)
include hlarge

theorem getNextTimeout_unbroken {n : Nat} {t : Int} (hnext : (p.unbroken n).hasNextTimeout)
    (ht : t = min (p.uncut n) (p.maxRetransDuration - previous p.uncut n)) :
    (p.unbroken n).getNextTimeout T = (t, ⟨p, n + 1, t, p.spent n + t⟩) := by
  have hless := (hasNextTimeout_iff.mp hnext).2.resolve_left (not_le.mpr hD)
  obtain ⟨hnonneg, hle⟩ := previous_le_spent hI n
  have huncut := uncut_nonneg hI n
  have hwrap : ∀ m, 0 ≤ m → m ≤ 2 * p.maxRetransDuration → T.wrap m = m := fun m h h' =>
    TimeType.wrap_of_le h (h'.trans hlarge)
  have htime : getNextTimeoutAfter T p (previous p.uncut n) = t := by
    simp only [getNextTimeoutAfter, if_pos hD,
      hwrap (2 * previous p.uncut n) (by omega) (by omega),
      hwrap (p.maxRetransDuration - previous p.uncut n) (by omega) (by omega)]
    rw [if_neg (by split <;> omega), cap_double hI, ht]
  have htotal := hwrap (p.spent n + t) (by omega) (by omega)
  rw [getNextTimeout, if_neg (by simp [hnext]), Parameters.unbroken]
  simp only [htime, htotal]

/-- No timeout is cut as long as the duration is not passed. -/
theorem timeouts_unbroken {n : Nat} (hn : p.spent n ≤ p.maxRetransDuration)
    (hcount : p.maxRetransCount = 0 ∨ n ≤ p.maxRetransCount) (calls : Nat) :
    p.build.timeouts T (n + calls) =
      (range n).map p.uncut ++ (p.unbroken n).timeouts T calls := by
  induction n generalizing calls with
  | zero => rw [Nat.zero_add]; rfl
  | succ n ih =>
    have hspent := spent_succ p n
    obtain ⟨-, hle⟩ := previous_le_spent hI n
    have hnonneg := uncut_nonneg hI n
    rw [Nat.add_right_comm, Nat.add_assoc, ih (by omega) (by omega), range_succ, map_append,
      append_assoc]
    have hnext : (p.unbroken n).hasNextTimeout :=
      hasNextTimeout_iff.mpr ⟨by omega, .inr (spent_lt_of_succ_le hI hD hn)⟩
    have hget := getNextTimeout_unbroken hI hD hlarge hnext (min_eq_left (by omega)).symm
    rw [timeouts, if_pos hnext, hget, ← hspent]
    rfl

/-- A timeout that is cut after the second passes the duration. -/
theorem sum_timeouts_of_cut {n : Nat} (hn : 2 ≤ n) (hless : p.spent n < p.maxRetransDuration)
    (hmore : p.maxRetransDuration < p.spent (n + 1)) (hpos : 0 < p.initialRetransTime)
    (hcount : p.maxRetransCount = 0 ∨ n < p.maxRetransCount) :
    p.maxRetransDuration < (p.build.timeouts T (n + 1)).sum := by
  have hnext : (p.unbroken n).hasNextTimeout := hasNextTimeout_iff.mpr ⟨hcount, .inr hless⟩
  rw [timeouts_unbroken hI hD hlarge hless.le (by omega) 1, sum_append, timeouts, if_pos hnext,
    getNextTimeout_unbroken hI hD hlarge hnext rfl]
  obtain ⟨k, rfl⟩ := Nat.exists_eq_add_of_le' (show 1 ≤ n by omega)
  have hbefore := le_spent hpos k
  have hsum : ((range (k + 1)).map p.uncut).sum = p.spent (k + 1) := rfl
  have hspent := spent_succ p (k + 1)
  have hspent' := spent_succ p k
  simp only [previous, timeouts, sum_cons, sum_nil, hsum]
  omega

theorem timeouts_of_fits (hfits : p.Fits) (calls : Nat) :
    (p.build.timeouts T calls).sum ≤ p.maxRetransDuration ∧
      (∀ t ∈ p.build.timeouts T calls, 0 ≤ t) ∧
      (p.maxRetransCount = 0 → p.maxRetransDuration < p.spent calls →
        (p.build.timeouts T calls).sum = p.maxRetransDuration) := by
  have huncut : ∀ n, ∀ t ∈ (range n).map p.uncut, 0 ≤ t := fun n t ht => by
    obtain ⟨k, -, rfl⟩ := mem_map.mp ht
    exact uncut_nonneg hI k
  have hsum : ∀ n, ((range n).map p.uncut).sum = p.spent n := fun _ => rfl
  let P n := p.spent n ≤ p.maxRetransDuration ∧ (p.maxRetransCount = 0 ∨ n ≤ p.maxRetransCount)
  by_cases hall : P calls
  · have hrun := timeouts_unbroken hI hD hlarge hall.1 hall.2 0
    rw [Nat.add_zero, timeouts, append_nil] at hrun
    rw [hrun, hsum]
    exact ⟨hall.1, huncut calls, fun _ hless => absurd hall.1 (not_le.mpr hless)⟩
  -- the timeout behind which the sequence ends or is cut
  obtain ⟨n, hlt, hn, hbreak⟩ : ∃ n < calls, P n ∧ ¬P (n + 1) := by
    by_contra hnone
    push Not at hnone
    have hupto : ∀ n ≤ calls, P n := fun n => by
      induction n with
      | zero => exact fun _ => ⟨hD.le, .inr (Nat.zero_le _)⟩
      | succ n ih => exact fun hle => hnone n hle (ih (Nat.le_of_succ_le hle))
    exact hall (hupto calls le_rfl)
  obtain ⟨more, rfl⟩ := Nat.exists_eq_add_of_lt hlt
  rw [Nat.add_assoc, timeouts_unbroken hI hD hlarge hn.1 hn.2, sum_append, hsum]
  by_cases hnext : (p.unbroken n).hasNextTimeout
  · obtain ⟨hcount, hless⟩ := hasNextTimeout_iff.mp hnext
    have hless := hless.resolve_left (not_le.mpr hD)
    have hmore : p.maxRetransDuration < p.spent (n + 1) := by
      by_contra hle
      exact hbreak ⟨not_lt.mp hle, by omega⟩
    have hfirst : n ≤ 1 := by
      by_contra htwo
      rcases hfits with hzero | htwice | ⟨m, hm⟩ | ⟨hC, hall⟩
      · have := spent_of_zero hzero (n + 1)
        omega
      · have := spent_mono hI (show 2 ≤ n by omega)
        omega
      · rcases Nat.lt_or_ge n m with hnm | hnm
        · have := spent_mono hI hnm
          simp only [Nat.succ_eq_add_one] at this
          omega
        · have := spent_mono hI hnm
          omega
      · have := spent_mono hI (show n + 1 ≤ p.maxRetransCount by omega)
        omega
    have hprevious : previous p.uncut n = p.spent n := by
      rcases Nat.le_one_iff_eq_zero_or_eq_one.mp hfirst with rfl | rfl
      · rfl
      · simp [previous, Parameters.spent, range_succ]
    have hspent := spent_succ p n
    have hget := getNextTimeout_unbroken hI hD hlarge hnext
      (t := p.maxRetransDuration - p.spent n) (by rw [hprevious]; omega)
    rw [add_sub_cancel] at hget
    have hend : ¬(⟨p, n + 1, p.maxRetransDuration - p.spent n,
        p.maxRetransDuration⟩ : BackoffSequence).hasNextTimeout :=
      fun hnext => by
        have := (hasNextTimeout_iff.mp hnext).2
        omega
    have hlast : (p.unbroken n).timeouts T (more + 1) =
        [p.maxRetransDuration - p.spent n] := by
      rw [timeouts, if_pos hnext, hget]
      cases more with
      | zero => rfl
      | succ more => exact congrArg _ (if_neg hend)
    rw [hlast, sum_singleton, add_sub_cancel]
    refine ⟨le_rfl, fun t ht => ?_, fun _ _ => rfl⟩
    rcases mem_append.mp ht with ht | ht
    · exact huncut n t ht
    · rw [mem_singleton.mp ht]
      omega
  · have hnil : (p.unbroken n).timeouts T (more + 1) = [] := if_neg hnext
    rw [hnil, sum_nil, add_zero, append_nil]
    refine ⟨hn.1, huncut n, fun hC _ => le_antisymm hn.1 (not_lt.mp fun hless => hnext ?_)⟩
    exact hasNextTimeout_iff.mpr ⟨.inl hC, .inr hless⟩

end Duration

/-- **The timeouts stay within the duration**, and use it up, exactly if none has to be cut after
the second. -/
theorem timeouts_within_duration (T : TimeType) (p : Parameters) (hI : 0 ≤ p.initialRetransTime)
    (hD : 0 < p.maxRetransDuration) (hlarge : 2 * p.maxRetransDuration ≤ T.largest) :
    ((∀ n, (p.build.timeouts T n).sum ≤ p.maxRetransDuration ∧
      ∀ t ∈ p.build.timeouts T n, 0 ≤ t) ∧
    (0 < p.initialRetransTime → p.maxRetransCount = 0 →
      ∃ n₀, ∀ n ≥ n₀, (p.build.timeouts T n).sum = p.maxRetransDuration)) ↔ p.Fits := by
  constructor
  · rintro ⟨hwithin, -⟩
    by_contra hfits
    obtain ⟨hzero, htwo, hexact, hcount⟩ : p.initialRetransTime ≠ 0 ∧
        p.spent 2 < p.maxRetransDuration ∧ (∀ n, p.spent n ≠ p.maxRetransDuration) ∧
        (0 < p.maxRetransCount → p.maxRetransDuration < p.spent p.maxRetransCount) := by
      simpa [Parameters.Fits, not_or] using hfits
    have hpos : 0 < p.initialRetransTime := hI.lt_of_ne' hzero
    have hmore : ∃ n, p.maxRetransDuration < p.spent (n + 1) :=
      ⟨p.maxRetransDuration.toNat, by have := le_spent hpos (p.maxRetransDuration.toNat + 1); omega⟩
    -- the first timeout that would pass the duration
    let n := Nat.find hmore
    have hpast : p.maxRetransDuration < p.spent (n + 1) := Nat.find_spec hmore
    have htwo' : 2 ≤ n := by
      by_contra hsmall
      have := spent_mono hI (show n + 1 ≤ 2 by omega)
      omega
    have hless : p.spent n < p.maxRetransDuration := by
      have hmin := Nat.find_min hmore (m := n - 1) (by omega)
      rw [Nat.sub_add_cancel (by omega)] at hmin
      exact lt_of_le_of_ne (not_lt.mp hmin) (hexact n)
    have hC : p.maxRetransCount = 0 ∨ n < p.maxRetransCount := by
      by_contra hboth
      have := hcount (by omega)
      have := spent_mono hI (show p.maxRetransCount ≤ n by omega)
      omega
    exact absurd (hwithin (n + 1)).1
      (not_le.mpr (sum_timeouts_of_cut hI hD hlarge htwo' hless hpast hpos hC))
  · intro hfits
    have hrun := timeouts_of_fits hI hD hlarge hfits
    refine ⟨fun n => ⟨(hrun n).1, (hrun n).2.1⟩, fun hpos hC => ?_⟩
    refine ⟨p.maxRetransDuration.toNat + 1, fun n hn => (hrun n).2.2 hC ?_⟩
    have := le_spent hpos n
    omega

open Parameters

theorem timeouts_within_duration_three :
    ∃ n₀, ∀ n ≥ n₀, ((Parameters.build { maxRetransDuration := 3 }).timeouts
      ⟨true, true, 63⟩ n).sum = 3 :=
  ((timeouts_within_duration ⟨true, true, 63⟩ { maxRetransDuration := 3 } (by decide) (by decide)
    (by decide)).mpr (.inr (.inl (by decide)))).2 (by decide) rfl

theorem timeouts_exceed_duration :
    ((Parameters.build { maxRetransDuration := 10 }).timeouts ⟨true, true, 63⟩ 5).sum = 13 := by
  decide

/-! ## Doubling -/

/-- The initial time doubled `k` times, up to the two limits. -/
def Parameters.saturated (p : Parameters) (T : TimeType) (k : Nat) : Int :=
  p.cap (min (p.initialRetransTime * 2 ^ k) T.largest)

/-- The first timeout is the initial time: what is in memory is not positive, or it happens to be
doubled to that. -/
def Parameters.StartsAfter (p : Parameters) (T : TimeType) (time : Int) : Prop :=
  time ≤ 0 ∨ p.cap (if 2 * time ≤ T.largest then 2 * time else T.numericLimitsMax) =
    p.cap p.initialRetransTime

section Doubling

variable (hI : 0 < p.initialRetransTime) (hD : p.maxRetransDuration = 0)
include hI hD

/-- A doubling that overflows gives less than the timeout, and is detected. -/
theorem getNextTimeoutAfter_eq (htime : time ≤ T.largest) : getNextTimeoutAfter T p time =
    p.cap (if 0 < time then if 2 * time ≤ T.largest then 2 * time else T.numericLimitsMax
      else p.initialRetransTime) := by
  simp only [getNextTimeoutAfter, hD, gt_iff_lt, lt_irrefl, if_false]
  by_cases hpos : 0 < time
  · simp only [if_pos hpos]
    by_cases hfits : 2 * time ≤ T.largest
    · rw [TimeType.wrap_of_le (by omega) hfits, if_pos hfits, if_neg (by omega)]
    · have hwrap : T.wrap (2 * time) < time := by
        have hlargest : T.largest = 2 ^ T.digits - 1 := rfl
        have hpow : ((2 ^ (T.digits + 1) : Nat) : Int) = 2 * 2 ^ T.digits := by rw [pow_succ']; rfl
        unfold TimeType.wrap
        split
        · have hmod := Int.bmod_lt (x := 2 * time) (m := 2 ^ (T.digits + 1))
            (Nat.pow_pos (by decide))
          have hshift : (2 * time - 2 * 2 ^ T.digits).bmod (2 ^ (T.digits + 1)) =
              (2 * time).bmod (2 ^ (T.digits + 1)) := by
            rw [← hpow]
            exact Int.sub_bmod_right _ _
          rw [← hshift, Int.bmod_eq_of_le (by omega) (by omega)]
          omega
        · rw [← Int.sub_emod_right, Int.emod_eq_of_lt (by omega) (by omega)]
          omega
      rw [if_pos hwrap, if_neg hfits]
  · simp only [if_neg hpos]
    rw [if_neg (by omega)]

omit hD in
theorem saturated_bounds (k : Nat) (hlargest : 0 < T.largest) :
    0 < p.saturated T k ∧ p.saturated T k ≤ T.largest := by
  have hpow : 0 < p.initialRetransTime * 2 ^ k := Int.mul_pos hI (Int.pow_pos (by decide))
  unfold Parameters.saturated Parameters.cap
  split <;> omega

/-- The timeouts go on doubling if no overflow is replaced by 0. -/
theorem getNextTimeoutAfter_saturated (hlargest : 0 < T.largest)
    (hT : T.isDuration = true → 0 < p.maxRetransTime ∧ 2 * p.maxRetransTime ≤ T.largest)
    (k : Nat) : getNextTimeoutAfter T p (p.saturated T k) = p.saturated T (k + 1) := by
  obtain ⟨hpos, hle⟩ := saturated_bounds hI k hlargest
  have hnext : p.saturated T (k + 1) =
      p.cap (min (2 * (p.initialRetransTime * 2 ^ k)) T.largest) := by
    rw [saturated, pow_succ', Int.mul_left_comm]
  have hpow : 0 < p.initialRetransTime * 2 ^ k := Int.mul_pos hI (Int.pow_pos (by decide))
  have hlimit : T.isDuration = false → T.numericLimitsMax = T.largest := fun h => by
    rw [TimeType.numericLimitsMax, h]
    rfl
  rw [getNextTimeoutAfter_eq hI hD hle, if_pos hpos, hnext]
  simp only [saturated, cap] at hpos hle ⊢
  cases hduration : T.isDuration with
  | true =>
    have := hT hduration
    split <;> split <;> omega
  | false =>
    rw [hlimit hduration]
    split <;> split <;> omega

theorem timeouts_eq_range (hlargest : 0 < T.largest)
    (hT : T.isDuration = true → 0 < p.maxRetransTime ∧ 2 * p.maxRetransTime ≤ T.largest)
    (hC : p.maxRetransCount = 0) (n k : Nat) :
    timeouts T n ⟨p, count, p.saturated T k, duration⟩ =
      (range' (k + 1) n).map (p.saturated T) := by
  induction n generalizing k count duration with
  | zero => rfl
  | succ n ih =>
    rw [timeouts_succ (hasNextTimeout_iff.mpr ⟨.inl hC, .inl hD.le⟩)
      (getNextTimeoutAfter_saturated hI hD hlargest hT k), range'_succ, map_cons]
    exact congrArg _ (ih (k + 1))

omit hI in
theorem timeouts_tail (hC : p.maxRetransCount = 0) {k : Nat}
    (h : ∀ n, timeouts T n ⟨p, count, time, duration⟩ = (range' k n).map (p.saturated T)) :
    getNextTimeoutAfter T p time = p.saturated T k ∧
      ∀ n, timeouts T n ⟨p, count + 1, p.saturated T k, T.wrap (duration + p.saturated T k)⟩ =
        (range' (k + 1) n).map (p.saturated T) := by
  have hstep := fun n => (timeouts_succ (T := T) (hasNextTimeout_iff.mpr ⟨.inl hC, .inl hD.le⟩)
    rfl n).symm.trans (h (n + 1))
  have hfirst := (cons.inj (hstep 0)).1
  exact ⟨hfirst, fun n => hfirst ▸ (cons.inj (hstep n)).2⟩

omit hI in
theorem getNextTimeoutAfter_of_timeouts (hC : p.maxRetransCount = 0) {k : Nat}
    (h : ∀ n, timeouts T n ⟨p, count, time, duration⟩ = (range' k n).map (p.saturated T))
    (j : Nat) : getNextTimeoutAfter T p (p.saturated T (k + j)) = p.saturated T (k + j + 1) := by
  have hrest := (timeouts_tail hD hC h).2
  induction j generalizing k count time duration with
  | zero => exact (timeouts_tail hD hC hrest).1
  | succ j ih =>
    have hgo := ih hrest (timeouts_tail hD hC hrest).2
    rwa [Nat.add_right_comm k 1 j] at hgo

end Doubling

/-- **The timeouts double up to their limits** exactly if what is in memory does not change the
first, and a duration can hold twice `maxRetransTime`. -/
theorem timeouts_double (T : TimeType) (b : BackoffSequence) (hI : 0 < b.mParams.initialRetransTime)
    (hI' : b.mParams.initialRetransTime ≤ T.largest) (hD : b.mParams.maxRetransDuration = 0)
    (hC : b.mParams.maxRetransCount = 0) (htime : b.mRetransTime ≤ T.largest) :
    (∀ n, b.timeouts T n = (List.range n).map (b.mParams.saturated T) ∧
      (b.timeouts T n).Pairwise (· ≤ ·)) ↔
      b.mParams.StartsAfter T b.mRetransTime ∧ (T.isDuration = true →
        0 < b.mParams.maxRetransTime ∧ 2 * b.mParams.maxRetransTime ≤ T.largest) := by
  obtain ⟨p, count, time, duration⟩ := b
  dsimp only at *
  have hlargest : 0 < T.largest := hI.trans_le hI'
  have hsat : p.saturated T 0 = p.cap p.initialRetransTime := by
    rw [saturated, pow_zero, mul_one, min_eq_left hI']
  have hfirst : getNextTimeoutAfter T p time = p.saturated T 0 ↔ p.StartsAfter T time := by
    rw [getNextTimeoutAfter_eq hI hD htime, hsat, StartsAfter]
    by_cases hpos : 0 < time
    · simp [hpos]
    · simp [hpos, not_lt.mp hpos]
  constructor
  · intro h
    have hrun : ∀ n, timeouts T n ⟨p, count, time, duration⟩ =
        (range' 0 n).map (p.saturated T) := fun n => by rw [(h n).1, range_eq_range']
    refine ⟨hfirst.mp (timeouts_tail hD hC hrun).1, fun hduration => ?_⟩
    by_contra hlimit
    -- a timeout that cannot be doubled any more
    have hpast : T.largest < p.initialRetransTime * 2 ^ T.digits := by
      have hpow : (0 : Int) < 2 ^ T.digits := Int.pow_pos (by decide)
      have hle : (1 : Int) * 2 ^ T.digits ≤ p.initialRetransTime * 2 ^ T.digits :=
        Int.mul_le_mul_of_nonneg_right hI hpow.le
      rw [TimeType.largest]
      omega
    obtain ⟨hpos, hle⟩ := saturated_bounds hI T.digits hlargest
    have hnext := getNextTimeoutAfter_of_timeouts hD hC hrun T.digits
    rw [Nat.zero_add, getNextTimeoutAfter_eq hI hD hle, if_pos hpos] at hnext
    have hpos' := (saturated_bounds hI (T.digits + 1) hlargest).1
    have hmax : T.numericLimitsMax = 0 := by
      rw [TimeType.numericLimitsMax, hduration]
      rfl
    rw [hmax] at hnext
    rw [← hnext] at hpos'
    simp only [saturated, cap] at hpos' hlimit
    split at hpos' <;> split at hpos' <;> omega
  · rintro ⟨hstart, hT⟩ n
    have heq : timeouts T n ⟨p, count, time, duration⟩ = (range n).map (p.saturated T) := by
      cases n with
      | zero => rfl
      | succ n =>
        rw [timeouts_succ (hasNextTimeout_iff.mpr ⟨.inl hC, .inl hD.le⟩) (hfirst.mpr hstart),
          range_eq_range', range'_succ, map_cons, timeouts_eq_range hI hD hlargest hT hC]
    have hmono : Monotone (p.saturated T) := monotone_nat_of_le_succ fun k => by
      have hpow : 0 < p.initialRetransTime * 2 ^ k := Int.mul_pos hI (Int.pow_pos (by decide))
      rw [saturated, saturated, pow_succ', Int.mul_left_comm]
      unfold cap
      split <;> omega
    refine ⟨heq, heq ▸ pairwise_map.mpr ?_⟩
    exact pairwise_lt_range.imp fun h => hmono h.le

theorem timeouts_double_uint32 :
    (Parameters.build { initialRetransTime := 3000000000 }).timeouts ⟨false, false, 32⟩ 3 =
      [3000000000, 4294967295, 4294967295] :=
  ((timeouts_double ⟨false, false, 32⟩ (Parameters.build { initialRetransTime := 3000000000 })
    (by decide) (by decide) rfl rfl (by decide)).mpr
      ⟨.inl le_rfl, fun h => by cases h⟩ 3).1

/-- A duration with a representation of 64 bits begins anew after an overflow, and a sequence of the
default constructor begins with twice what was in memory. -/
theorem timeouts_overflow :
    (Parameters.build { initialRetransTime := 2 ^ 62 }).timeouts ⟨true, true, 63⟩ 3 =
        [2 ^ 62, 0, 2 ^ 62] ∧
      (BackoffSequence.ofMemory 0 5 0).timeouts ⟨false, false, 32⟩ 2 = [10, 20] := by
  decide

end Netd.Backoff
