import Mathlib.Data.List.Rotate
import Netd.Resolv.Nameservers

/-!
# What the samples of a server tell

`android_net_res_stats_aggregate` counts the samples in the order of the array. A sample is
stored at its number modulo the maximum (`Ring.place`), so the array has the latest ones in an
order that is a rotation of theirs (`Ring.rotate`).
-/

namespace Netd.Nameservers

open List ResStats ResSample

def maxnssamples : Nat := 64

/-- How a sample counts. -/
inductive Outcome where
  | success
  | error
  | timeout
  | internalError
  deriving DecidableEq

/-- `NOERROR`, `NOTAUTH` and `NXDOMAIN` are successes. -/
def ResSample.outcome (sample : ResSample) : Outcome :=
  match sample.rcode with
  | 0 | 9 | 3 => .success
  | 255 => .timeout
  | 254 => .internalError
  | _ => .error

/-- The variables of the loop. -/
structure Sums where
  s : Nat
  e : Nat
  t : Nat
  ie : Nat
  rttSum : Nat
  rttCount : Nat

def Sums.add (sums : Sums) (sample : ResSample) : Sums :=
  match sample.outcome with
  | .success =>
    { sums with
      s := sums.s + 1, rttSum := sums.rttSum + sample.rtt, rttCount := sums.rttCount + 1 }
  | .timeout => { sums with t := sums.t + 1 }
  | .internalError => { sums with ie := sums.ie + 1 }
  | .error => { sums with e := sums.e + 1 }

structure Aggregate where
  successes : Nat
  errors : Nat
  timeouts : Nat
  internalErrors : Nat
  rttAvg : Int
  lastSampleTime : Nat

namespace ResStats

def stored (stats : ResStats) : List ResSample := (range stats.sampleCount).map stats.samples

/-- The place of the latest sample. -/
def newest (stats : ResStats) : Nat :=
  if stats.sampleNext > 0 then stats.sampleNext - 1 else stats.sampleCount - 1

def androidNetResStatsAggregate (stats : ResStats) : Aggregate :=
  let sums := stats.stored.foldl Sums.add ⟨0, 0, 0, 0, 0, 0⟩
  { successes := sums.s
    errors := sums.e
    timeouts := sums.t
    internalErrors := sums.ie
    rttAvg := if sums.rttCount = 0 then -1 else (sums.rttSum / sums.rttCount : Nat)
    lastSampleTime :=
      if stats.sampleCount = 0 then 0 else (stats.samples stats.newest).time }

end ResStats

theorem foldl_add (l : List ResSample) (sums : Sums) : l.foldl Sums.add sums =
      { s := sums.s + l.countP (·.outcome = .success)
        e := sums.e + l.countP (·.outcome = .error)
        t := sums.t + l.countP (·.outcome = .timeout)
        ie := sums.ie + l.countP (·.outcome = .internalError)
        rttSum := sums.rttSum + ((l.filter (·.outcome = .success)).map rtt).sum
        rttCount := sums.rttCount + l.countP (·.outcome = .success) } := by
  induction l generalizing sums with
  | nil => rfl
  | cons sample l ih =>
    rw [foldl_cons, ih]
    cases h : sample.outcome <;> simp [Sums.add, h] <;> omega

/-- The array after some samples, the latest one last. -/
structure Ring (m : Nat) (xs : List ResSample) (stats : ResStats) : Prop where
  count : stats.sampleCount = min xs.length m
  next : stats.sampleNext = xs.length % m
  place : ∀ j < xs.length, xs.length ≤ j + m → xs[j]? = some (stats.samples (j % m))
  last : stats.androidNetResStatsAggregate.lastSampleTime = (xs.getLast?.map ResSample.time).getD 0

variable {m : Nat} {xs : List ResSample} {stats : ResStats}

theorem Ring.addSample (h : Ring m xs stats) (hpos : 0 < m) (hm : m ≤ maxnssamples)
    (sample : ResSample) : Ring m (xs ++ [sample]) (stats.addSample sample m) := by
  have hm : m ≤ 64 := hm
  have hlt := Nat.mod_lt xs.length hpos
  have hcount : (stats.addSample sample m).sampleCount = min (xs.length + 1) m := by
    simp only [ResStats.addSample, h.count]
    split <;> omega
  have hnext : (stats.addSample sample m).sampleNext =
      if xs.length % m + 1 = m then 0 else xs.length % m + 1 := by
    simp only [ResStats.addSample, h.next]
    split <;> split <;> omega
  refine ⟨by simpa using hcount, ?_, fun j hj hlast => ?_, ?_⟩
  · rw [hnext, length_append, length_singleton, ← Nat.mod_add_mod]
    split
    · next heq => rw [heq, Nat.mod_self]
    · exact (Nat.mod_eq_of_lt (by omega)).symm
  · simp only [length_append, length_singleton] at hj hlast
    rcases Nat.lt_succ_iff_lt_or_eq.mp hj with hj | rfl
    · -- less than a round lies between the two samples, so their places differ
      have hne : j % m ≠ xs.length % m := by
        intro heq
        have hle := Nat.le_of_dvd (by omega) ((Nat.modEq_iff_dvd' hj.le).mp heq)
        omega
      rw [getElem?_append_left hj, h.place j hj (by omega)]
      simp only [ResStats.addSample, h.next, Function.update_of_ne hne]
    · simp [ResStats.addSample, h.next]
  · have hle := Nat.mod_le xs.length m
    have hnewest : (stats.addSample sample m).newest = stats.sampleNext := by
      rw [newest, hnext, hcount, h.next]
      by_cases hwrap : xs.length % m + 1 = m
      · rw [if_pos hwrap, if_neg (by omega)]
        omega
      · rw [if_neg hwrap, if_pos (by omega)]
        omega
    simp only [androidNetResStatsAggregate, hnewest, hcount]
    rw [if_neg (by omega)]
    simp [ResStats.addSample]

theorem ring_foldl (stats : ResStats) (hpos : 0 < m) (hm : m ≤ maxnssamples)
    (xs : List ResSample) : Ring m xs (xs.foldl (addSample · · m) stats.clear) := by
  induction xs using reverseRecOn with
  | nil => exact ⟨(Nat.zero_min m).symm, (Nat.zero_mod m).symm, by simp, rfl⟩
  | append_singleton xs x ih =>
    rw [foldl_append]
    exact ih.addSample hpos hm x

theorem Ring.rotate (h : Ring m xs stats) :
    stats.stored.rotate stats.sampleNext = xs.drop (xs.length - m) := by
  have hcount := h.count
  refine ext_getElem (by simp [stored]; omega) fun k hk hk' => ?_
  have hlen : k < min xs.length m := by simpa [stored, hcount] using hk
  have hplace := h.place (xs.length - m + k) (by omega) (by omega)
  rw [getElem?_eq_getElem (by omega)] at hplace
  rw [getElem_drop, Option.some.inj hplace, getElem_rotate]
  simp only [stored, getElem_map, getElem_range, length_map, length_range, hcount, h.next]
  congr 1
  rcases Nat.lt_or_ge xs.length m with hlt | hge
  · rw [min_eq_left hlt.le, Nat.mod_eq_of_lt hlt, Nat.add_mod_right, Nat.sub_eq_zero_of_le hlt.le,
      Nat.zero_add, Nat.mod_eq_of_lt (by omega), Nat.mod_eq_of_lt (by omega)]
  · rw [min_eq_right hge, Nat.add_mod_mod, ← Nat.add_mod_right (_ - m + k)]
    congr 1
    omega

/-- The array holds the latest samples, at most `m` of them, and the summary is theirs. -/
theorem latest_samples_summarised (stats : ResStats) (hpos : 0 < m) (hm : m ≤ maxnssamples)
    (xs : List ResSample) :
    let stats' := xs.foldl (addSample · · m) stats.clear
    let latest := xs.drop (xs.length - m)
    let successes := latest.filter (·.outcome = .success)
    stats'.stored.Perm latest ∧ stats'.androidNetResStatsAggregate =
      { successes := successes.length
        errors := latest.countP (·.outcome = .error)
        timeouts := latest.countP (·.outcome = .timeout)
        internalErrors := latest.countP (·.outcome = .internalError)
        rttAvg := if successes = [] then -1
          else ((successes.map rtt).sum / successes.length : Nat)
        lastSampleTime := (xs.getLast?.map time).getD 0 } := by
  intro stats' latest successes
  have hring := ring_foldl stats hpos hm xs
  have hperm : stats'.stored.Perm latest := by
    have hrotate := rotate_perm stats'.stored stats'.sampleNext
    rw [hring.rotate] at hrotate
    exact hrotate.symm
  have hsums := foldl_add stats'.stored ⟨0, 0, 0, 0, 0, 0⟩
  simp only [hperm.countP_eq, ((hperm.filter _).map _).sum_nat, Nat.zero_add] at hsums
  refine ⟨hperm, ?_⟩
  rw [← hring.last]
  simp only [androidNetResStatsAggregate, hsums, successes, stats',
    countP_eq_length_filter, length_eq_zero_iff]

/-- Three samples with room for two. -/
theorem latest_samples_summarised_two : let samples := [⟨1, 10, 0⟩, ⟨2, 20, 255⟩, ⟨3, 30, 3⟩]
    let stats := samples.foldl (addSample · · 2) (.clear .zero)
    stats.stored.Perm [⟨2, 20, 255⟩, ⟨3, 30, 3⟩] ∧
      stats.androidNetResStatsAggregate = ⟨1, 0, 1, 0, 30, 3⟩ :=
  latest_samples_summarised .zero (m := 2) (by decide) (by decide) _

/-! ## Which servers are tried -/

/-- `res_stats_usable_server`, with the copy of the record that it may clear. -/
def resStatsUsableServer (params : ResParams) (now : Int) (stats : ResStats) : Bool × ResStats :=
  let a := stats.androidNetResStatsAggregate
  let total := a.successes + a.errors + a.timeouts
  if total ≥ params.minSamples.val ∧ (a.errors > 0 ∨ a.timeouts > 0) ∧
      a.successes * 100 / total < params.successThreshold.val then
    if now - a.lastSampleTime > params.sampleValidity.val then (true, stats.clear)
    else (false, stats)
  else (true, stats)

/-- `android_net_res_stats_get_usable_servers`: when no server is usable, all of them are. -/
def androidNetResStatsGetUsableServers (params : ResParams) (now : Int) (stats : List ResStats) :
    List Bool × List ResStats :=
  let checked := stats.map (resStatsUsableServer params now)
  let usable := checked.map Prod.fst
  (if usable.count true = 0 then usable.map fun _ => true else usable, checked.map Prod.snd)

/-- The record of a server after some samples. -/
def record (m : Nat) (xs : List ResSample) : ResStats := xs.foldl (addSample · · m) zero.clear

theorem ring_record (hpos : 0 < m) (hm : m ≤ maxnssamples) : Ring m xs (record m xs) :=
  ring_foldl zero hpos hm xs

/-- The number of samples with an outcome among the latest ones. -/
def latest (m : Nat) (xs : List ResSample) (outcome : Outcome) : Nat :=
  (xs.drop (xs.length - m)).countP (·.outcome = outcome)

theorem countP_stored (hpos : 0 < m) (hm : m ≤ maxnssamples) (outcome : Outcome) :
    (record m xs).stored.countP (·.outcome = outcome) = latest m xs outcome := by
  have hperm := rotate_perm (record m xs).stored (record m xs).sampleNext
  rw [(ring_record hpos hm).rotate] at hperm
  exact hperm.symm.countP_eq _

/-- The latest samples are enough and recent, and too many of them failed. -/
structure Failing (params : ResParams) (now : Int) (m : Nat) (xs : List ResSample) : Prop where
  failure : 0 < latest m xs .error + latest m xs .timeout
  enough : params.minSamples.val ≤
    latest m xs .success + latest m xs .error + latest m xs .timeout
  rate : latest m xs .success * 100 < params.successThreshold.val *
    (latest m xs .success + latest m xs .error + latest m xs .timeout)
  recent : now - (xs.getLast?.map time).getD 0 ≤ params.sampleValidity.val

theorem failing_of_unusable {params : ResParams} {now : Int} (hpos : 0 < m)
    (hm : m ≤ maxnssamples) (h : (resStatsUsableServer params now (record m xs)).1 = false) :
    Failing params now m xs := by
  have hsums := foldl_add (record m xs).stored ⟨0, 0, 0, 0, 0, 0⟩
  have hring : Ring m xs (record m xs) := ring_record hpos hm
  simp only [countP_stored hpos hm, Nat.zero_add] at hsums
  simp only [resStatsUsableServer] at h
  rw [hring.last] at h
  simp only [androidNetResStatsAggregate, hsums] at h
  split at h
  · rename_i hbad
    split at h
    · cases h
    · rename_i hnew
      refine ⟨by omega, hbad.1, ?_, by omega⟩
      exact (Nat.div_lt_iff_lt_mul (by omega)).mp hbad.2.2
  · cases h

/-- A server is only passed over when its latest samples speak against it, and never all
servers are. -/
theorem passed_over_servers_failed (params : ResParams) (now : Int) (hpos : 0 < m)
    (hm : m ≤ maxnssamples) (histories : List (List ResSample)) {ns : Nat}
    (hns : (androidNetResStatsGetUsableServers params now (histories.map (record m))).1[ns]? =
      some false) :
    (∃ xs, histories[ns]? = some xs ∧ Failing params now m xs) ∧
      true ∈ (androidNetResStatsGetUsableServers params now (histories.map (record m))).1 := by
  simp only [androidNetResStatsGetUsableServers] at hns ⊢
  split at hns
  · exact absurd (mem_of_getElem? hns) (by simp)
  · rename_i hsome
    rw [if_neg hsome]
    refine ⟨?_, count_pos_iff.mp (Nat.pos_of_ne_zero hsome)⟩
    simp only [getElem?_map, Option.map_eq_some_iff] at hns
    obtain ⟨_, ⟨_, ⟨xs, hxs, rfl⟩, rfl⟩, hfalse⟩ := hns
    exact ⟨xs, hxs, failing_of_unusable hpos hm hfalse⟩

theorem passed_over_servers_failed_first :
    (∃ xs, [[⟨1, 0, 255⟩, ⟨2, 0, 2⟩], [⟨1, 10, 0⟩]][0]? = some xs ∧
        Failing ⟨1800, 75, 2, 8, 0⟩ 100 8 xs) ∧
      true ∈ (androidNetResStatsGetUsableServers ⟨1800, 75, 2, 8, 0⟩ 100
        ([[⟨1, 0, 255⟩, ⟨2, 0, 2⟩], [⟨1, 10, 0⟩]].map (record 8))).1 :=
  passed_over_servers_failed _ _ (by decide) (by decide) _ (by decide)

end Netd.Nameservers
