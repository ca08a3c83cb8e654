import Mathlib.Data.List.Infix

/-!
# Searching for a marker

A marker is a word whose first element does not come up again in it, so two occurrences cannot
overlap. If a marker follows a list without it, it occurs once in the whole, at the end
(`Marker.occurs_once`), and a reader of a part finds it only after having seen all
(`Marker.find_of_begins`).
-/

namespace Netd.Marker

open List

variable {α : Type*} {w l x u p t : List α} {a : α} {n : Nat}

theorem occurs_once (ha : a ∉ t) (hno : ¬a :: t <:+: x) (h : u ++ a :: t <+: x ++ a :: t) :
    u = x := by
  have hu : u <+: x := by
    refine prefix_of_prefix_length_le ((prefix_append _ _).trans h)
      (prefix_append _ _) ?_
    have hlen := h.length_le
    simp only [length_append] at hlen
    omega
  obtain ⟨d, rfl⟩ := hu
  cases d with
  | nil => simp
  | cons b d =>
    -- the marker begins before the end of the list, with its first element at `b`
    rw [append_assoc, prefix_append_right_inj] at h
    obtain ⟨rfl, hrest⟩ := cons_prefix_cons.mp h
    rcases Nat.lt_or_ge d.length t.length with hlt | hge
    · -- it reaches into the marker at the end, whose first element is then one of its own
      have hd : d ++ [a] <+: t := by
        refine prefix_of_prefix_length_le ?_ hrest (by simpa using Nat.succ_le_of_lt hlt)
        exact ⟨t, by simp⟩
      exact absurd (hd.subset (by simp)) ha
    · -- it is in the list
      have ht : t <+: d := prefix_of_prefix_length_le hrest (prefix_append _ _) hge
      obtain ⟨v, rfl⟩ := ht
      exact absurd ⟨u, v, by simp⟩ hno

variable [DecidableEq α]

/-- The first position at which a word begins. -/
def find (w : List α) : List α → Option Nat
  | [] => if w = [] then some 0 else none
  | b :: bs => if w <+: b :: bs then some 0 else (find w bs).map (· + 1)

theorem find_eq_some (h : find w l = some n) : w <+: l.drop n := by
  induction l generalizing n with
  | nil =>
    unfold find at h
    split at h
    · rename_i hw
      simp [hw]
    · cases h
  | cons b bs ih =>
    unfold find at h
    split at h
    · rename_i hw
      obtain rfl : 0 = n := Option.some.inj h
      exact hw
    · obtain ⟨m, hm, rfl⟩ := Option.map_eq_some_iff.mp h
      exact ih hm

theorem find_eq_none : find w l = none ↔ ¬w <:+: l := by
  induction l with
  | nil => simp [find]
  | cons b bs ih =>
    unfold find
    split
    · rename_i hw
      simp [hw.isInfix]
    · rename_i hw
      simp [infix_cons_iff, hw, ih]

theorem find_eq_some_split (h : find w l = some n) : l.take n ++ w <+: l := by
  obtain ⟨v, hv⟩ := find_eq_some h
  refine ⟨v, ?_⟩
  rw [append_assoc, hv, take_append_drop]

theorem find_of_begins (ha : a ∉ t) (hno : ¬a :: t <:+: x) (hp : p <+: x ++ a :: t) :
    find (a :: t) p = none ∨ p = x ++ a :: t ∧ find (a :: t) p = some x.length := by
  rcases hfind : find (a :: t) p with _ | n
  · exact .inl rfl
  have hbegins := find_eq_some_split hfind
  have hx : p.take n = x := occurs_once ha hno (hbegins.trans hp)
  have hall : p = x ++ a :: t := by
    refine hp.eq_of_length (le_antisymm hp.length_le ?_)
    rw [hx] at hbegins
    exact hbegins.length_le
  have hn : n ≤ p.length := by
    by_contra hlong
    have hrest := (find_eq_some hfind).length_le
    rw [drop_of_length_le (by omega)] at hrest
    simp at hrest
  refine .inr ⟨hall, ?_⟩
  rw [← hx, length_take, min_eq_left hn]

end Netd.Marker
