import Mathlib.Data.Prod.Lex
import Mathlib.Data.String.Basic
import Netd.Bpf.MapSwap

/-!
# Grouped lines

`groupNetworkStats` for every order that the sort gives equal lines. Names that end with a NUL are
compared and copied as a whole.
-/

namespace Netd.Bpf

open Tally StatsLine List

variable {ν : Type}

def StatsLine.order (line : StatsLine ν) : String ×ₗ Nat ×ₗ Nat ×ₗ Nat :=
  toLex (line.iface, toLex (line.uid, toLex (line.tag, line.set)))

theorem lt_iff (a b : StatsLine ν) : a.lt b = true ↔ a.order < b.order := by
  simp only [lt, order, Prod.Lex.toLex_lt_toLex]
  by_cases h : a.iface = b.iface
  · simp [h]
    omega
  · simp [h]

theorem key_eq_iff (a b : StatsLine ν) : a.key = b.key ↔ a.order = b.order := by
  simp [key, order]

/-- Grouping conserves the counters, however equal lines are ordered by the sort. -/
theorem grouping_conserves_counters [AddCommMonoid ν] (lines sorted : List (StatsLine ν))
    (hperm : sorted.Perm lines) (hsorted : sorted.Pairwise fun a b => b.lt a = false) :
    (groupInPlaceStats lines sorted).Pairwise (fun a b => a.lt b = true) ∧
    (∀ k, k ∈ (groupInPlaceStats lines sorted).map StatsLine.key ↔ k ∈ lines.map StatsLine.key) ∧
    ∀ line ∈ groupInPlaceStats lines sorted, line.stats = lineTally lines line.key := by
  cases sorted with
  | nil =>
    obtain rfl := nil_perm.mp hperm
    simp [groupInPlaceStats]
  | cons line rest =>
    rw [groupInPlaceStats_eq hperm]
    have hle : (line :: rest).Pairwise fun a b => a.order ≤ b.order := by
      refine hsorted.imp fun {a b} h => not_lt.mp fun hlt => ?_
      rw [(lt_iff b a).mpr hlt] at h
      cases h
    have hlt := (pairwise_group _ add (fun _ _ => rfl) key_eq_iff hle).1
    have hnodup : ((group key add line rest).map key).Nodup :=
      pairwise_map.mpr (hlt.imp fun h heq => h.ne ((key_eq_iff _ _).mp heq))
    refine ⟨hlt.imp (lt_iff _ _).mpr, fun k => ?_, fun x hx => ?_⟩
    · rw [keys_group key add fun _ _ => rfl]
      exact (hperm.map _).mem_iff
    · rw [← tally_of_mem key stats hnodup hx, lineTally, ← tally_perm _ _ hperm]
      exact tally_group _ _ add (fun _ _ => rfl) (fun _ _ => rfl) line rest _

/-- Two lines of one key. -/
def twice : List (StatsLine Nat) :=
  [⟨"a", 1, 0, 0, ⟨1, 1, 1, 1⟩⟩, ⟨"a", 1, 0, 0, ⟨3, 3, 3, 3⟩⟩]

theorem grouping_conserves_counters_two :
    (groupInPlaceStats twice twice.reverse).Pairwise (fun a b => a.lt b = true) ∧
    (∀ k, k ∈ (groupInPlaceStats twice twice.reverse).map StatsLine.key ↔
      k ∈ twice.map StatsLine.key) ∧
    ∀ line ∈ groupInPlaceStats twice twice.reverse, line.stats = lineTally twice line.key :=
  grouping_conserves_counters _ _ (by decide) (by decide)

end Netd.Bpf
