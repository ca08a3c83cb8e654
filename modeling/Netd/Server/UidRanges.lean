import Mathlib.Data.Prod.Lex
import Netd.Fwmark
import Netd.Lib.SortedSeq

/-!
# Uid ranges

A `UidRangeParcel` is a pair of `int32_t` bounds as binder delivers them, with no check at all. The
bounds are kept as 32-bit words: `compUidRangeParcel` and `hasUid` read them as signed numbers, and
the conversion to `uid_t` that `RouteController` makes does not change the word.

`UidRanges` keeps its ranges sorted.
-/

namespace Netd

open SortedSeq Multiset

/-- A range of user ids, inclusive, with unchecked bounds. -/
structure UidRangeParcel where
  start : Uid
  stop : Uid

namespace UidRangeParcel

/-- The user id lies in the range, with the bounds read as `uid_t`. -/
def Contains (r : UidRangeParcel) (uid : Uid) : Prop := r.start ≤ uid ∧ uid ≤ r.stop

instance (r : UidRangeParcel) (uid : Uid) : Decidable (r.Contains uid) :=
  inferInstanceAs (Decidable (_ ∧ _))

/-- The user id lies in the range, with the bounds read as the `int32_t` they are. -/
def Spans (r : UidRangeParcel) (uid : Uid) : Prop :=
  r.start.toInt ≤ uid.toNat ∧ (uid.toNat : Int) ≤ r.stop.toInt

/-- The bounds as signed numbers, compared lexicographically. -/
def key (r : UidRangeParcel) : ℤ ×ₗ ℤ := toLex (r.start.toInt, r.stop.toInt)

theorem key_injective : Function.Injective key := by
  intro a b h
  have hpair : (a.start.toInt, a.stop.toInt) = (b.start.toInt, b.stop.toInt) := toLex.injective h
  have hstart := BitVec.eq_of_toInt_eq (congrArg Prod.fst hpair)
  have hstop := BitVec.eq_of_toInt_eq (congrArg Prod.snd hpair)
  cases a
  simp_all

/-- Equality is decided through the order, so that there is one instance. -/
instance : LinearOrder UidRangeParcel := LinearOrder.lift' key key_injective

end UidRangeParcel

def compUidRangeParcel (lhs rhs : UidRangeParcel) : Bool :=
  if lhs.start ≠ rhs.start then lhs.start.toInt < rhs.start.toInt
  else lhs.stop.toInt < rhs.stop.toInt

theorem compUidRangeParcel_iff {a b : UidRangeParcel} : compUidRangeParcel a b = true ↔ a < b := by
  have hlt : a < b ↔ a.start.toInt < b.start.toInt ∨
      a.start.toInt = b.start.toInt ∧ a.stop.toInt < b.stop.toInt := Prod.Lex.toLex_lt_toLex
  have hstart : a.start = b.start ↔ a.start.toInt = b.start.toInt := BitVec.toInt_inj.symm
  unfold compUidRangeParcel
  rw [hlt]
  split
  · rename_i hne
    rw [ne_eq, hstart] at hne
    simp [hne]
  rename_i heq
  rw [ne_eq, not_not] at heq
  simp [heq]

/-- A sorted collection of ranges. Ranges may repeat and overlap. -/
structure UidRanges where
  mRanges : List UidRangeParcel
  sorted : mRanges.Pairwise (· ≤ ·)

namespace UidRanges

/-- The constructor: copy and sort. -/
def ofRanges (ranges : List UidRangeParcel) : UidRanges :=
  ⟨ranges.insertionSort (· ≤ ·), List.pairwise_insertionSort (· ≤ ·) ranges⟩

def empty : UidRanges := ⟨[], .nil⟩

def getRanges (u : UidRanges) : List UidRangeParcel := u.mRanges

def add (u other : UidRanges) : UidRanges :=
  ⟨inplaceMerge u.mRanges other.mRanges, inplaceMerge_sorted u.sorted other.sorted⟩

def remove (u other : UidRanges) : UidRanges :=
  ⟨setDifference u.mRanges other.mRanges, u.sorted.sublist (setDifference_sublist _ _)⟩

/-- Look at the range found by `std::lower_bound` and at the one before it. -/
def hasUid (u : UidRanges) (uid : Uid) : Bool :=
  if uid.toNat > 0x7fffffff then false
  else
    let value : UidRangeParcel := ⟨uid, uid⟩
    ((fromLowerBound u.mRanges value).head?.any fun r => r.start = uid) ||
      ((beforeLowerBound u.mRanges value).getLast?.any fun r =>
        uid.toInt ≤ r.stop.toInt)

/-- The ranges without their order. -/
def bag (u : UidRanges) : Multiset UidRangeParcel := ↑u.mRanges

variable {r : UidRangeParcel} {u : UidRanges} {other : UidRanges}

theorem mem_bag : r ∈ u.bag ↔ r ∈ u.mRanges := Iff.rfl

theorem mem_ofRanges {ranges : List UidRangeParcel} : r ∈ (ofRanges ranges).mRanges ↔ r ∈ ranges :=
  (List.perm_insertionSort (· ≤ ·) ranges).mem_iff

theorem bag_ofRanges (ranges : List UidRangeParcel) : (ofRanges ranges).bag = ↑ranges :=
  coe_eq_coe.mpr (List.perm_insertionSort (· ≤ ·) ranges)

theorem bag_add (u other : UidRanges) : (u.add other).bag = u.bag + other.bag :=
  coe_eq_coe.mpr (inplaceMerge_perm u.mRanges other.mRanges)

theorem bag_remove (u other : UidRanges) : (u.remove other).bag = u.bag - other.bag :=
  coe_setDifference u.sorted other.sorted

theorem mem_add : r ∈ (u.add other).mRanges ↔ r ∈ u.mRanges ∨ r ∈ other.mRanges := by
  rw [← mem_bag, bag_add, Multiset.mem_add, mem_bag, mem_bag]

theorem mem_of_mem_remove (h : r ∈ (u.remove other).mRanges) : r ∈ u.mRanges :=
  (setDifference_sublist _ _).subset h

/-! ## Users in ranges -/

theorem lt_single {uid : Uid} : r < ⟨uid, uid⟩ ↔ r.start.toInt < uid.toInt ∨
    r.start.toInt = uid.toInt ∧ r.stop.toInt < uid.toInt := Prod.Lex.toLex_lt_toLex

theorem spans_of_hasUid {u : UidRanges} {uid : Uid} (h : u.hasUid uid = true) :
    uid ≠ invalidUid ∧ ∃ r ∈ u.mRanges, r.Spans uid := by
  unfold hasUid at h
  split at h
  · cases h
  next hsmall =>
  have hint : uid.toInt = uid.toNat := BitVec.toInt_eq_toNat_of_lt (by omega)
  have hknown : uid ≠ invalidUid := by
    rintro rfl
    exact hsmall (by decide)
  refine ⟨hknown, ?_⟩
  rcases Bool.or_eq_true_iff.mp h with hfrom | hbefore
  · obtain ⟨r, hr, hstart⟩ := (Option.any_eq_true _ _).mp hfrom
    obtain ⟨hmem, hle⟩ := of_head?_fromLowerBound hr
    have hstart : r.start = uid := of_decide_eq_true hstart
    have hkey : (uid.toInt < r.start.toInt) ∨ uid.toInt = r.start.toInt ∧
        uid.toInt ≤ r.stop.toInt := Prod.Lex.toLex_le_toLex.mp hle
    rw [hstart] at hkey
    refine ⟨r, hmem, ?_, ?_⟩
    · rw [hstart, hint]
    · omega
  · obtain ⟨r, hr, hstop⟩ := (Option.any_eq_true _ _).mp hbefore
    obtain ⟨hmem, hlt⟩ := of_mem_beforeLowerBound (List.mem_of_getLast? hr)
    have hstop : uid.toInt ≤ r.stop.toInt := of_decide_eq_true hstop
    have := lt_single.mp hlt
    refine ⟨r, hmem, ?_, ?_⟩ <;> omega

theorem start_le_of_le {s : UidRangeParcel} (h : r ≤ s) : r.start.toInt ≤ s.start.toInt := by
  rcases Prod.Lex.toLex_le_toLex.mp h with h | h
  · exact h.le
  · exact h.1.le

theorem hasUid_iff {uid : Uid} (huid : uid.toNat ≤ 0x7fffffff) : u.hasUid uid = true ↔
    (∃ r, (fromLowerBound u.mRanges ⟨uid, uid⟩).head? = some r ∧ r.start = uid) ∨
      ∃ r, (beforeLowerBound u.mRanges ⟨uid, uid⟩).getLast? = some r ∧
        uid.toInt ≤ r.stop.toInt := by
  simp [hasUid, if_neg (show ¬uid.toNat > 0x7fffffff by omega), Option.any_eq_true]

/-- The bound lies behind the last range that starts at or before the user id and ends before it. -/
theorem lowerBound_eq {uid : Uid} {before after : List UidRangeParcel}
    (hranges : u.mRanges = before ++ r :: after) (hr : r < ⟨uid, uid⟩)
    (hafter : ∀ s ∈ after, uid.toInt < s.start.toInt) :
    beforeLowerBound u.mRanges ⟨uid, uid⟩ = before ++ [r] ∧
      fromLowerBound u.mRanges ⟨uid, uid⟩ = after := by
  have hsorted := u.sorted
  rw [hranges] at hsorted
  have hless : ∀ t ∈ before ++ [r], decide (t < (⟨uid, uid⟩ : UidRangeParcel)) = true := by
    intro t ht
    rcases List.mem_append.mp ht with ht | ht
    · have htr := (List.pairwise_append.mp hsorted).2.2 t ht r List.mem_cons_self
      exact decide_eq_true (htr.trans_lt hr)
    · rw [List.mem_singleton.mp ht]
      exact decide_eq_true hr
  have hfrom : after.dropWhile (fun t => decide (t < (⟨uid, uid⟩ : UidRangeParcel))) = after ∧
      after.takeWhile (fun t => decide (t < (⟨uid, uid⟩ : UidRangeParcel))) = [] := by
    cases after with
    | nil => exact ⟨rfl, rfl⟩
    | cons t rest =>
      have hfirst := hafter t List.mem_cons_self
      have hnot : ¬t < ⟨uid, uid⟩ := fun h => by
        have := lt_single.mp h
        omega
      exact ⟨List.dropWhile_cons_of_neg (by simpa using hnot),
        List.takeWhile_cons_of_neg (by simpa using hnot)⟩
  rw [beforeLowerBound, fromLowerBound, hranges, List.append_cons,
    List.takeWhile_append_of_pos hless, List.dropWhile_append_of_pos hless, hfrom.1, hfrom.2,
    List.append_nil]
  exact ⟨rfl, rfl⟩

theorem lowerBound_append (u : UidRanges) (value : UidRangeParcel) :
    beforeLowerBound u.mRanges value ++ fromLowerBound u.mRanges value = u.mRanges :=
  List.takeWhile_append_dropWhile

/-- If the first range from the bound on does not start at the user id, all start behind it. -/
theorem lt_start_of_fromLowerBound {uid : Uid}
    (hfirst : ∀ r, (fromLowerBound u.mRanges ⟨uid, uid⟩).head? = some r → r.start ≠ uid) :
    ∀ s ∈ fromLowerBound u.mRanges ⟨uid, uid⟩, uid.toInt < s.start.toInt := by
  intro s hs
  obtain ⟨first, rest, hfrom⟩ := List.exists_cons_of_ne_nil (List.ne_nil_of_mem hs)
  have hhead : (fromLowerBound u.mRanges ⟨uid, uid⟩).head? = some first := by rw [hfrom]; rfl
  have hne : first.start.toInt ≠ uid.toInt := fun h => hfirst first hhead (BitVec.eq_of_toInt_eq h)
  have hle : first ≤ s := by
    have hsorted := u.sorted
    rw [← lowerBound_append u ⟨uid, uid⟩, hfrom] at hsorted
    rw [hfrom] at hs
    rcases List.mem_cons.mp hs with rfl | hrest
    · exact le_rfl
    · exact List.rel_of_pairwise_cons (List.pairwise_append.mp hsorted).2.1 hrest
  have huid : uid.toInt ≤ first.start.toInt := start_le_of_le (of_head?_fromLowerBound hhead).2
  have := start_le_of_le hle
  omega

/-- **`hasUid` decides membership** exactly if, where the last range that starts at or before the
user id ends before it, so do the ranges before that one. -/
theorem hasUid_iff_spans (u : UidRanges) {uid : Uid} (huid : uid.toNat ≤ 0x7fffffff) :
    (u.hasUid uid = true ↔ ∃ r ∈ u.mRanges, r.Spans uid) ↔
      ∀ before r after, u.mRanges = before ++ r :: after → r.start.toInt ≤ uid.toInt →
        (∀ s ∈ after, uid.toInt < s.start.toInt) → r.stop.toInt < uid.toInt →
        ∀ s ∈ before, s.stop.toInt < uid.toInt := by
  have hint : uid.toInt = uid.toNat := BitVec.toInt_eq_toNat_of_lt (by omega)
  constructor
  · intro hmem before r after hranges hstart hafter hstop s hs
    by_contra hends
    obtain ⟨hbefore, hfrom⟩ := lowerBound_eq hranges (lt_single.mpr (by omega)) hafter
    rw [hasUid_iff huid, hbefore, hfrom, hranges, List.getLast?_concat] at hmem
    have hspans : s.Spans uid := by
      have hsorted := u.sorted
      rw [hranges] at hsorted
      have := start_le_of_le ((List.pairwise_append.mp hsorted).2.2 s hs r List.mem_cons_self)
      exact ⟨by omega, by omega⟩
    rcases hmem.mpr ⟨s, List.mem_append_left _ hs, hspans⟩ with ⟨t, ht, hat⟩ | ⟨t, ht, hreaches⟩
    · have := hafter t (List.mem_of_head? ht)
      rw [hat] at this
      omega
    · cases ht
      omega
  · intro hcond
    refine ⟨fun h => (spans_of_hasUid h).2, ?_⟩
    rintro ⟨r, hr, hstart, hstop⟩
    rw [hasUid_iff huid]
    by_contra hneither
    rw [not_or] at hneither
    have hafter := lt_start_of_fromLowerBound fun r hr hat => hneither.1 ⟨r, hr, hat⟩
    have hsplit := lowerBound_append u ⟨uid, uid⟩
    have hbefore : r ∈ beforeLowerBound u.mRanges ⟨uid, uid⟩ := by
      rw [← hsplit] at hr
      refine (List.mem_append.mp hr).resolve_right fun hfrom => ?_
      have := hafter r hfrom
      omega
    obtain ⟨init, last, hlast⟩ := (List.eq_nil_or_concat _).resolve_left
      (List.ne_nil_of_mem hbefore)
    rw [List.concat_eq_append] at hlast
    have hshort : ¬uid.toInt ≤ last.stop.toInt := fun h =>
      hneither.2 ⟨last, by rw [hlast, List.getLast?_concat], h⟩
    have hless := (of_mem_beforeLowerBound (hlast ▸ List.mem_concat_self :
      last ∈ beforeLowerBound u.mRanges ⟨uid, uid⟩)).2
    have hall := hcond init last (fromLowerBound u.mRanges ⟨uid, uid⟩)
      (hsplit.symm.trans (by rw [hlast, List.append_assoc]; rfl))
      (by have := lt_single.mp hless; omega) hafter (not_le.mp hshort)
    rw [hlast] at hbefore
    rcases List.mem_append.mp hbefore with hinit | hlast
    · have := hall r hinit
      omega
    · rw [List.mem_singleton.mp hlast] at hstop
      omega

theorem hasUid_iff_spans_overlapping :
    ∃ r ∈ (ofRanges [⟨0, 9⟩, ⟨5, 12⟩]).mRanges, r.Spans 11 := by
  refine ((hasUid_iff_spans _ (by decide)).mpr ?_).mp (by decide)
  rw [show (ofRanges [⟨0, 9⟩, ⟨5, 12⟩]).mRanges = [⟨0, 9⟩, ⟨5, 12⟩] by decide]
  rintro (_ | ⟨x, _ | ⟨y, rest⟩⟩) r after hranges - - hstop s hs
  · cases hs
  · cases hranges
    exact absurd hstop (by decide)
  · cases rest <;> cases hranges

/-- A nested range hides the one around it. -/
theorem hasUid_misses_nested : (ofRanges [⟨0, 100⟩, ⟨10, 20⟩]).hasUid 50 = false ∧
    ∃ r ∈ (ofRanges [⟨0, 100⟩, ⟨10, 20⟩]).mRanges, r.Spans 50 :=
  ⟨by decide, ⟨0, 100⟩, by decide, by unfold UidRangeParcel.Spans; decide⟩

/-! ## Sequences of operations -/

/-- What the constructor, `add` and `remove` make, and its multiset. `remove` writes over the ranges
that it still reads. -/
inductive Built : List UidRangeParcel → Multiset UidRangeParcel → Prop
  | ofRanges (ranges : List UidRangeParcel) : Built (ofRanges ranges).mRanges ranges
  | add {us vs a b} : Built us a → Built vs b → Built (inplaceMerge us vs) (a + b)
  | remove {us vs a b} : Built us a → Built vs b → Built (setDifferenceInPlace us 0 0 vs) (a - b)

variable {us vs : List UidRangeParcel} {a b : Multiset UidRangeParcel}

theorem Built.bag (h : Built us a) : ∃ u : UidRanges, u.mRanges = us ∧ u.bag = a := by
  induction h with
  | ofRanges ranges => exact ⟨_, rfl, bag_ofRanges ranges⟩
  | add _ _ ihu ihv =>
    obtain ⟨u, rfl, rfl⟩ := ihu
    obtain ⟨v, rfl, rfl⟩ := ihv
    exact ⟨u.add v, rfl, bag_add u v⟩
  | remove _ _ ihu ihv =>
    obtain ⟨u, rfl, rfl⟩ := ihu
    obtain ⟨v, rfl, rfl⟩ := ihv
    exact ⟨u.remove v, (setDifferenceInPlace_eq _ 0 0 _ le_rfl).symm, bag_remove u v⟩

/-- **The ranges are a multiset**: they stay sorted, and removing what was added restores them. -/
theorem ranges_multiset (hu : Built us a) (hv : Built vs b) :
    us.Pairwise (fun r r' => compUidRangeParcel r' r = false) ∧ ↑us = a ∧
      setDifferenceInPlace (inplaceMerge us vs) 0 0 vs = us := by
  obtain ⟨u, rfl, rfl⟩ := hu.bag
  obtain ⟨back, hback, hbag⟩ := ((hu.add hv).remove hv).bag
  refine ⟨u.sorted.imp fun hle => ?_, rfl, ?_⟩
  · exact Bool.eq_false_iff.mpr fun hlt => not_lt.mpr hle (compUidRangeParcel_iff.mp hlt)
  · rw [Multiset.add_sub_cancel_right] at hbag
    rw [← hback]
    exact (coe_eq_coe.mp hbag).eq_of_pairwise' back.sorted u.sorted

theorem ranges_multiset_sample :
    setDifferenceInPlace (inplaceMerge (ofRanges [⟨7, 9⟩, ⟨1, 2⟩]).mRanges
      (ofRanges [⟨1, 2⟩]).mRanges) 0 0 (ofRanges [⟨1, 2⟩]).mRanges =
        (ofRanges [⟨7, 9⟩, ⟨1, 2⟩]).mRanges :=
  (ranges_multiset (.ofRanges _) (.ofRanges _)).2.2

end UidRanges

end Netd
