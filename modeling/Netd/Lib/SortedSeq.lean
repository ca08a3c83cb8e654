import Mathlib.Data.Multiset.AddSub
import Mathlib.Data.List.Sort
import Mathlib.Data.List.TakeWhile

/-!
# Algorithms on sorted sequences

`std::inplace_merge`, `std::set_difference` and `std::lower_bound` on lists over a linear order.

On sorted sequences the merge is the sum of the multisets and the set
difference is their truncated difference, and both keep the order.
-/

namespace Netd.SortedSeq

open List

variable {α : Type*} [LinearOrder α]

/-- Merge with `x` at the head of the first sequence; `k` merges its tail. -/
def mergeHead (x : α) (k : List α → List α) : List α → List α
  | [] => x :: k []
  | y :: ys => if y < x then y :: mergeHead x k ys else x :: k (y :: ys)

/-- Of equal elements those of the first sequence come first. -/
def inplaceMerge : List α → List α → List α
  | [], ys => ys
  | x :: xs, ys => mergeHead x (inplaceMerge xs) ys

/-- Set difference of `x :: xs`; `k` is the difference with the tail. -/
def differenceHead (x : α) (xs : List α) (k : List α → List α) : List α → List α
  | [] => x :: xs
  | y :: ys =>
    if x < y then x :: k (y :: ys)
    else if y < x then differenceHead x xs k ys
    else k ys

/-- One element of the first sequence goes for each equal one of the second. -/
def setDifference : List α → List α → List α
  | [], _ => []
  | x :: xs, ys => differenceHead x xs (setDifference xs) ys

/-- `std::set_difference` with its output over its first sequence `v`, read at `i` and written at
`o`, up to the end that it returns. -/
def setDifferenceInPlace (v : List α) (i o : Nat) (ys : List α) : List α :=
  if h : i < v.length then
    match ys with
    | [] => setDifferenceInPlace (v.set o v[i]) (i + 1) (o + 1) []
    | y :: ys =>
      if v[i] < y then setDifferenceInPlace (v.set o v[i]) (i + 1) (o + 1) (y :: ys)
      else if y < v[i] then setDifferenceInPlace v i o ys
      else setDifferenceInPlace v (i + 1) o ys
  else v.take o
termination_by v.length - i + ys.length
decreasing_by all_goals simp only [length_set, length_cons]; omega

/-- The sequence before `std::lower_bound(v)`. -/
def beforeLowerBound (xs : List α) (v : α) : List α := xs.takeWhile (· < v)

/-- The sequence from `std::lower_bound(v)` on. -/
def fromLowerBound (xs : List α) (v : α) : List α := xs.dropWhile (· < v)

/-! ## Merging -/

variable {x : α} {xs : List α} {k : List α → List α}

theorem mergeHead_perm (hk : ∀ ys, (k ys).Perm (xs ++ ys)) :
    ∀ ys, (mergeHead x k ys).Perm (x :: xs ++ ys)
  | [] => (hk []).cons x
  | y :: ys => by
    unfold mergeHead
    split
    · exact ((mergeHead_perm hk ys).cons y).trans perm_middle.symm
    · exact (hk (y :: ys)).cons x

theorem inplaceMerge_perm : ∀ xs ys : List α, (inplaceMerge xs ys).Perm (xs ++ ys)
  | [], _ => List.Perm.refl _
  | _ :: xs, ys => mergeHead_perm (inplaceMerge_perm xs) ys

theorem mergeHead_sorted (hx : ∀ z ∈ xs, x ≤ z) (hperm : ∀ ys, (k ys).Perm (xs ++ ys))
    (hk : ∀ ys, ys.Pairwise (· ≤ ·) → (k ys).Pairwise (· ≤ ·)) :
    ∀ ys, ys.Pairwise (· ≤ ·) → (mergeHead x k ys).Pairwise (· ≤ ·)
  | [], h => by
    refine pairwise_cons.mpr ⟨fun z hz => ?_, hk [] h⟩
    exact hx z (by simpa using (hperm []).mem_iff.mp hz)
  | y :: ys, h => by
    obtain ⟨hy, hys⟩ := pairwise_cons.mp h
    unfold mergeHead
    split
    · rename_i hlt
      refine pairwise_cons.mpr ⟨fun z hz => ?_, mergeHead_sorted hx hperm hk ys hys⟩
      have hmem := (mergeHead_perm hperm ys).mem_iff.mp hz
      rw [cons_append, mem_cons, mem_append] at hmem
      rcases hmem with hzx | hzxs | hzys
      · exact hzx ▸ le_of_lt hlt
      · exact le_trans (le_of_lt hlt) (hx z hzxs)
      · exact hy z hzys
    · rename_i hge
      refine pairwise_cons.mpr ⟨fun z hz => ?_, hk _ h⟩
      have hmem := (hperm (y :: ys)).mem_iff.mp hz
      rw [mem_append, mem_cons] at hmem
      rcases hmem with hzxs | hzy | hzys
      · exact hx z hzxs
      · exact hzy ▸ not_lt.mp hge
      · exact le_trans (not_lt.mp hge) (hy z hzys)

theorem inplaceMerge_sorted : ∀ {xs ys : List α}, xs.Pairwise (· ≤ ·) → ys.Pairwise (· ≤ ·) →
    (inplaceMerge xs ys).Pairwise (· ≤ ·)
  | [], _, _, hys => hys
  | _ :: xs, ys, hxs, hys => by
    obtain ⟨hx, hxs'⟩ := pairwise_cons.mp hxs
    exact mergeHead_sorted hx (inplaceMerge_perm xs) (fun _ h => inplaceMerge_sorted hxs' h) ys hys

/-! ## Set difference -/

theorem count_eq_zero_of_lt {ys : List α} (h : ∀ y ∈ ys, x < y) : ys.count x = 0 :=
  count_eq_zero.mpr fun hx => lt_irrefl x (h x hx)

theorem differenceHead_count (hx : ∀ z ∈ xs, x ≤ z)
    (hk : ∀ ys : List α, ys.Pairwise (· ≤ ·) → ∀ a, (k ys).count a = xs.count a - ys.count a) :
    ∀ ys : List α, ys.Pairwise (· ≤ ·) →
      ∀ a, (differenceHead x xs k ys).count a = (x :: xs).count a - ys.count a
  | [], _, a => by simp [differenceHead]
  | y :: ys, h, a => by
    obtain ⟨hy, hys⟩ := pairwise_cons.mp h
    unfold differenceHead
    split
    · rename_i hlt
      -- everything left to subtract is above `x`
      have hzero : (y :: ys).count x = 0 := count_eq_zero_of_lt fun z hz => by
        cases mem_cons.mp hz with
        | inl hzy => exact hzy ▸ hlt
        | inr hzys => exact lt_of_lt_of_le hlt (hy z hzys)
      rw [count_cons, hk (y :: ys) h]
      by_cases hax : x = a
      · subst hax
        rw [hzero, count_cons_self]
        simp
      · rw [count_cons_of_ne hax]
        simp [hax]
    · rename_i hge
      split
      · rename_i hlt
        -- `y` is below everything that could match it
        have hzero : (x :: xs).count y = 0 := count_eq_zero_of_lt fun z hz => by
          cases mem_cons.mp hz with
          | inl hzx => exact hzx ▸ hlt
          | inr hzxs => exact lt_of_lt_of_le hlt (hx z hzxs)
        rw [differenceHead_count hx hk ys hys]
        by_cases hay : y = a
        · subst hay
          omega
        · rw [count_cons_of_ne hay]
      · rename_i hge'
        have hxy : x = y := le_antisymm (not_lt.mp hge') (not_lt.mp hge)
        rw [hk ys hys, count_cons, count_cons, hxy]
        split <;> omega

theorem setDifference_count : ∀ {xs ys : List α}, xs.Pairwise (· ≤ ·) → ys.Pairwise (· ≤ ·) →
    ∀ a, (setDifference xs ys).count a = xs.count a - ys.count a
  | [], _, _, _, _ => by simp [setDifference]
  | _ :: _, ys, hxs, hys, a => by
    obtain ⟨hx, hxs'⟩ := pairwise_cons.mp hxs
    exact differenceHead_count hx (fun _ h => setDifference_count hxs' h) ys hys a

theorem coe_setDifference {ys : List α} (hxs : xs.Pairwise (· ≤ ·)) (hys : ys.Pairwise (· ≤ ·)) :
    (↑(setDifference xs ys) : Multiset α) = (↑xs : Multiset α) - ↑ys := by
  ext a
  rw [Multiset.count_sub, Multiset.coe_count, Multiset.coe_count, Multiset.coe_count]
  exact setDifference_count hxs hys a

theorem differenceHead_sublist (hk : ∀ ys, (k ys).Sublist xs) :
    ∀ ys, (differenceHead x xs k ys).Sublist (x :: xs)
  | [] => List.Sublist.refl _
  | y :: ys => by
    unfold differenceHead
    split
    · exact (hk _).cons_cons x
    split
    · exact differenceHead_sublist hk ys
    · exact (hk ys).cons x

theorem setDifference_sublist : ∀ xs ys : List α, (setDifference xs ys).Sublist xs
  | [], _ => List.Sublist.refl _
  | _ :: xs, ys => differenceHead_sublist (setDifference_sublist xs) ys

theorem setDifference_nil (xs : List α) : setDifference xs [] = xs := by
  cases xs <;> rfl

/-- What is written is never read again. -/
theorem take_drop_set {v : List α} {i o : Nat} (hi : i < v.length) (ho : o ≤ i) (ys : List α) :
    (v.set o v[i]).take (o + 1) ++ setDifference ((v.set o v[i]).drop (i + 1)) ys =
      v.take o ++ v[i] :: setDifference (v.drop (i + 1)) ys := by
  have hlen : o < (v.set o v[i]).length := by
    rw [length_set]
    exact ho.trans_lt hi
  rw [drop_set_of_lt (Nat.lt_succ_of_le ho), take_succ_eq_append_getElem hlen, getElem_set_self,
    take_set_of_le le_rfl, append_assoc, singleton_append]

theorem setDifferenceInPlace_eq (v : List α) (i o : Nat) (ys : List α) (ho : o ≤ i) :
    setDifferenceInPlace v i o ys = v.take o ++ setDifference (v.drop i) ys := by
  fun_induction setDifferenceInPlace v i o ys with
  | case1 v i o hi ih =>
    rw [ih (Nat.succ_le_succ ho), take_drop_set hi ho, drop_eq_getElem_cons hi, setDifference_nil,
      setDifference_nil]
  | case2 v i o hi y ys hlt ih =>
    rw [ih (Nat.succ_le_succ ho), take_drop_set hi ho, drop_eq_getElem_cons hi, setDifference,
      differenceHead, if_pos hlt]
  | case3 v i o hi y ys hge hlt ih =>
    rw [ih ho, drop_eq_getElem_cons hi, setDifference, setDifference, differenceHead, if_neg hge,
      if_pos hlt]
  | case4 v i o hi y ys hge hge' ih =>
    rw [ih (Nat.le_succ_of_le ho), drop_eq_getElem_cons hi, setDifference, differenceHead,
      if_neg hge, if_neg hge']
  | case5 v i o ys hi =>
    rw [drop_eq_nil_of_le (Nat.le_of_not_lt hi)]
    exact (append_nil _).symm

/-! ## Searching -/

theorem of_mem_beforeLowerBound {v : α} (h : x ∈ beforeLowerBound xs v) : x ∈ xs ∧ x < v := by
  have hlt := mem_takeWhile_imp h
  exact ⟨( takeWhile_prefix _).subset h, of_decide_eq_true hlt⟩

theorem of_head?_fromLowerBound {v : α} (h : (fromLowerBound xs v).head? = some x) :
    x ∈ xs ∧ v ≤ x := by
  have hnot := List.head?_dropWhile_not (· < v) xs
  have hmem : x ∈ fromLowerBound xs v := mem_of_head? h
  rw [fromLowerBound] at h
  rw [h] at hnot
  exact ⟨(dropWhile_suffix _).subset hmem, not_lt.mp (of_decide_eq_false hnot)⟩

end Netd.SortedSeq
