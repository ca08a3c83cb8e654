import Mathlib.Algebra.Group.Basic
import Mathlib.Order.Lattice

/-!
# Tallies

`tally key value l k` is the sum of the values of the entries of `l` with key `k`. It is the same
for every order of the entries (`tally_perm`), and it is kept when values are added to an entry in
place (`tally_upsert`) and when neighbours with the same key are joined to one (`tally_group`),
which may be done in place (`groupInPlace_eq`).
-/

namespace Netd.Tally

open List

variable {α κ M : Type*} [DecidableEq κ] [AddCommMonoid M]

def tally (key : α → κ) (value : α → M) : List α → κ → M
  | [], _ => 0
  | x :: l, k => (if key x = k then value x else 0) + tally key value l k

section Sums

variable (key : α → κ) (value : α → M)

@[simp] theorem tally_nil (k : κ) : tally key value [] k = 0 := rfl

theorem tally_cons (x : α) (l : List α) (k : κ) :
    tally key value (x :: l) k = (if key x = k then value x else 0) + tally key value l k := rfl

theorem tally_append (l l' : List α) (k : κ) :
    tally key value (l ++ l') k = tally key value l k + tally key value l' k := by
  induction l with
  | nil => rw [nil_append, tally_nil, zero_add]
  | cons x l ih => rw [cons_append, tally_cons, tally_cons, ih, add_assoc]

theorem tally_perm {l l' : List α} (h : l.Perm l') (k : κ) :
    tally key value l k = tally key value l' k := by
  induction h with
  | nil => rfl
  | cons x _ ih => rw [tally_cons, tally_cons, ih]
  | swap x y l => rw [tally_cons, tally_cons, tally_cons, tally_cons, add_left_comm]
  | trans _ _ ih ih' => exact ih.trans ih'

end Sums

/-! ## Values that are added in place -/

/-- Add the value to the entry of the key, or make one. -/
def upsert [DecidableEq α] (a : α) (v : M) : List (α × M) → List (α × M)
  | [] => [(a, v)]
  | (b, w) :: l => if b = a then (b, w + v) :: l else (b, w) :: upsert a v l

theorem tally_upsert [DecidableEq α] (key : α → κ) (a : α) (v : M) (l : List (α × M)) (k : κ) :
    tally (fun x => key x.1) Prod.snd (upsert a v l) k =
      (if key a = k then v else 0) + tally (fun x => key x.1) Prod.snd l k := by
  induction l with
  | nil => rfl
  | cons x l ih =>
    obtain ⟨b, w⟩ := x
    by_cases heq : b = a
    · subst heq
      rw [upsert, if_pos rfl, tally_cons, tally_cons, ← add_assoc]
      by_cases hk : key b = k
      · simp only [if_pos hk, add_comm w v]
      · simp only [if_neg hk, add_zero]
    · rw [upsert, if_neg heq, tally_cons, tally_cons, ih, add_left_comm]

/-! ## Neighbours that are joined -/

/-- Join each entry to the one before it that has the same key. -/
def group (key : α → κ) (join : α → α → α) : α → List α → List α
  | x, [] => [x]
  | x, y :: l =>
    if key x = key y then group key join (join x y) l else x :: group key join y l

/-- `group` in place: the entry at `out` is joined with those that are read from `i` on. -/
def groupInPlace (key : α → κ) (join : α → α → α) : Nat → List α → Nat → Nat → List α
  | 0, v, out, _ => v.take (out + 1)
  | n + 1, v, out, i =>
    match v[out]?, v[i]? with
    | some x, some y =>
      if key x = key y then groupInPlace key join n (v.set out (join x y)) out (i + 1)
      else
        groupInPlace key join n (if out + 1 = i then v else v.set (out + 1) y) (out + 1) (i + 1)
    | _, _ => v.take (out + 1)

section

variable (key : α → κ) (value : α → M) (join : α → α → α) {l : List α}

theorem tally_group (hkey : ∀ x y, key (join x y) = key x)
    (hvalue : ∀ x y, value (join x y) = value x + value y) (x : α) (l : List α) (k : κ) :
    tally key value (group key join x l) k = tally key value (x :: l) k := by
  induction l generalizing x with
  | nil => rfl
  | cons y l ih =>
    by_cases heq : key x = key y
    · rw [group, if_pos heq, ih, tally_cons, tally_cons, tally_cons, hkey, hvalue, ← heq,
        ← add_assoc]
      by_cases hk : key x = k
      · simp only [if_pos hk]
      · simp only [if_neg hk, zero_add]
    · rw [group, if_neg heq, tally_cons, ih, tally_cons key value x]

/-- Between what is done and what is still to be read there may be a gap. -/
theorem groupInPlace_eq (rest done gap : List α) (x : α) :
    groupInPlace key join rest.length (done ++ x :: (gap ++ rest)) done.length
      (done.length + 1 + gap.length) = done ++ group key join x rest := by
  induction rest generalizing done gap x with
  | nil => simp [groupInPlace, group, take_append, take_of_length_le]
  | cons y rest ih =>
    have hx : (done ++ x :: (gap ++ y :: rest))[done.length]? = some x := by simp
    have hy : (done ++ x :: (gap ++ y :: rest))[done.length + 1 + gap.length]? = some y := by
      rw [Nat.add_assoc, getElem?_append_right (by omega)]
      simp [Nat.add_comm 1]
    simp only [length_cons, groupInPlace, hx, hy, group]
    split
    · have := ih done (gap ++ [y]) (join x y)
      simpa [Nat.add_assoc] using this
    · cases gap with
      | nil =>
        have := ih (done ++ [x]) [] y
        simpa using this
      | cons g gap =>
        have hset : (done ++ x :: (g :: gap ++ y :: rest)).set (done.length + 1) y =
            done ++ x :: y :: (gap ++ y :: rest) := by simp
        have hnext : done.length + 1 + (g :: gap).length + 1 =
            (done ++ [x]).length + 1 + (gap ++ [y]).length := by simp; omega
        have := ih (done ++ [x]) (gap ++ [y]) y
        rw [if_neg (by simp), hset, hnext]
        simpa using this

theorem pairwise_group {κ' : Type*} [LinearOrder κ'] {order : α → κ'}
    (hjoin : ∀ x y, order (join x y) = order x) (hkey : ∀ x y, key x = key y ↔ order x = order y)
    {x : α} (h : (x :: l).Pairwise (order · ≤ order ·)) :
    (group key join x l).Pairwise (order · < order ·) ∧
      ∀ z ∈ group key join x l, order x ≤ order z := by
  induction l generalizing x with
  | nil => simp [group]
  | cons y l ih =>
    obtain ⟨hx, hy, hl⟩ := by simpa only [pairwise_cons] using h
    rw [group]
    split
    · have hjoined : (join x y :: l).Pairwise (order · ≤ order ·) :=
        pairwise_cons.mpr
          ⟨fun z hz => by rw [hjoin]; exact hx z (mem_cons_of_mem _ hz), hl⟩
      simpa only [hjoin] using ih hjoined
    next hne =>
      have hlt : order x < order y :=
        lt_of_le_of_ne (hx y mem_cons_self) fun heq => hne ((hkey x y).mpr heq)
      obtain ⟨hsort, hle⟩ := ih (pairwise_cons.mpr ⟨hy, hl⟩)
      refine ⟨pairwise_cons.mpr ⟨fun z hz => hlt.trans_le (hle z hz), hsort⟩, ?_⟩
      exact forall_mem_cons.mpr ⟨le_rfl, fun z hz => hlt.le.trans (hle z hz)⟩

theorem keys_group (hjoin : ∀ x y, key (join x y) = key x) (x : α) (l : List α) (k : κ) :
    k ∈ (group key join x l).map key ↔ k ∈ (x :: l).map key := by
  induction l generalizing x with
  | nil => rfl
  | cons y l ih =>
    rw [group]
    split
    next heq => simp only [ih, map_cons, mem_cons, hjoin, heq, or_self_left]
    next => simp only [map_cons, mem_cons, ih]

theorem tally_eq_zero {k : κ} (h : k ∉ l.map key) : tally key value l k = 0 := by
  induction l with
  | nil => rfl
  | cons x l ih =>
    simp only [map_cons, mem_cons, not_or] at h
    rw [tally_cons, if_neg (Ne.symm h.1), ih h.2, zero_add]

theorem tally_of_mem (h : (l.map key).Nodup) {x : α} (hx : x ∈ l) :
    tally key value l (key x) = value x := by
  induction l with
  | nil => cases hx
  | cons y l ih =>
    obtain ⟨hy, hl⟩ := nodup_cons.mp h
    rw [tally_cons]
    rcases mem_cons.mp hx with rfl | hx
    · rw [if_pos rfl, tally_eq_zero key value hy, add_zero]
    · rw [if_neg, ih hl hx, zero_add]
      exact fun heq => hy (heq ▸ mem_map_of_mem hx)

end

end Netd.Tally
