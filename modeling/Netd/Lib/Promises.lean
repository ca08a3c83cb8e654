import Mathlib.Data.List.Nodup

/-!
# Promises

The shared states of promises (`std::promise` and `std::future`). Each promise is made for
something and has a number. `Promises.Balanced` says that those still in hand and those that were
fulfilled are together all the promises, each of them once: an owner that keeps it never drops a
promise and never fulfils one twice.
-/

namespace Netd

open List

/-- The promises that were made, each with what it was made for, and the values that
were set. -/
structure Promises (κ ρ : Type*) where
  made : List κ
  settled : List (Nat × ρ)

namespace Promises

variable {κ ρ : Type*} {p : Promises κ ρ} {k : κ} {r : ρ} {t : Nat} {inHand : List Nat}

def empty : Promises κ ρ := ⟨[], []⟩

/-- A new promise. Its number is `p.made.length`. -/
def make (p : Promises κ ρ) (k : κ) : Promises κ ρ := { p with made := p.made ++ [k] }

def setValue (p : Promises κ ρ) (t : Nat) (r : ρ) : Promises κ ρ :=
  { p with settled := p.settled ++ [(t, r)] }

/-- Set several promises to one value, in order. -/
def setAll (p : Promises κ ρ) (ts : List Nat) (r : ρ) : Promises κ ρ :=
  ts.foldl (fun p t => p.setValue t r) p

def fulfilled (p : Promises κ ρ) : List Nat := p.settled.map Prod.fst

theorem settled_setAll (ts : List Nat) :
    (p.setAll ts r).settled = p.settled ++ ts.map fun t => (t, r) := by
  induction ts generalizing p with
  | nil => simp [setAll]
  | cons t ts ih =>
    have htail : p.setAll (t :: ts) r = (p.setValue t r).setAll ts r := rfl
    rw [htail, ih]
    simp [setValue]

@[simp] theorem made_setAll (ts : List Nat) : (p.setAll ts r).made = p.made := by
  induction ts generalizing p with
  | nil => rfl
  | cons t ts ih => exact ih (p := p.setValue t r)

theorem fulfilled_setAll (ts : List Nat) : (p.setAll ts r).fulfilled = p.fulfilled ++ ts := by
  rw [fulfilled, settled_setAll, map_append, map_map]
  have hid : (Prod.fst ∘ fun t : Nat => (t, r)) = id := rfl
  rw [hid, map_id]
  rfl

/-- The promises in hand and the fulfilled ones are together all promises, each once. -/
def Balanced (p : Promises κ ρ) (inHand : List Nat) : Prop :=
  (inHand ++ p.fulfilled).Perm (List.range p.made.length)

namespace Balanced

theorem perm {l : List Nat} (h : p.Balanced inHand) (hperm : inHand.Perm l) : p.Balanced l :=
  (hperm.append_right _).symm.trans h

theorem make (h : p.Balanced inHand) : (p.make k).Balanced (p.made.length :: inHand) := by
  have hrange : List.range (p.made ++ [k]).length =
      List.range p.made.length ++ [p.made.length] := by
    rw [length_append, length_singleton, range_succ]
  show (p.made.length :: (inHand ++ p.fulfilled)).Perm (List.range (p.made ++ [k]).length)
  rw [hrange]
  exact (h.cons _).trans (perm_append_singleton _ _).symm

theorem setAll {ts : List Nat} (h : p.Balanced (ts ++ inHand)) :
    (p.setAll ts r).Balanced inHand := by
  show (inHand ++ (p.setAll ts r).fulfilled).Perm (List.range (p.setAll ts r).made.length)
  rw [fulfilled_setAll, made_setAll, ← append_assoc]
  have hswap : (inHand ++ p.fulfilled ++ ts).Perm (ts ++ inHand ++ p.fulfilled) := by
    rw [append_assoc ts]
    exact perm_append_comm
  exact hswap.trans h

theorem setValue (h : p.Balanced (t :: inHand)) : (p.setValue t r).Balanced inHand := by
  have hone : p.Balanced ([t] ++ inHand) := h
  exact hone.setAll

theorem nodup (h : p.Balanced inHand) : (inHand ++ p.fulfilled).Nodup := h.nodup_iff.mpr nodup_range

theorem not_mem_fulfilled (h : p.Balanced inHand) (ht : t ∈ inHand) : t ∉ p.fulfilled := by
  have hdisj := (nodup_append.mp h.nodup).2.2
  intro hmem
  exact hdisj t ht t hmem rfl

theorem inHand_or_once (h : p.Balanced inHand) (ht : t < p.made.length) :
    (t ∈ inHand ∧ p.fulfilled.count t = 0) ∨ (t ∉ inHand ∧ p.fulfilled.count t = 1) := by
  have honce : (inHand ++ p.fulfilled).count t = 1 := by
    rw [h.count_eq]
    exact count_eq_one_of_mem nodup_range (mem_range.mpr ht)
  rw [count_append] at honce
  by_cases hmem : t ∈ inHand
  · have hpos : 0 < inHand.count t := count_pos_iff.mpr hmem
    exact .inl ⟨hmem, by omega⟩
  · have hzero : inHand.count t = 0 := count_eq_zero.mpr hmem
    exact .inr ⟨hmem, by omega⟩

end Balanced

end Promises

end Netd
