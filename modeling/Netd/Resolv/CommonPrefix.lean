import Mathlib.Order.Bounds.Basic

/-!
# The common prefix of two addresses

`_common_prefix_len` of `getaddrinfo.cpp`, for both ways in which a `char` may be promoted to an
`int`. An `int` has 32 bits, and a shift to the left drops bits.
-/

namespace Netd.CommonPrefix

open BitVec

abbrev In6Addr := Vector (BitVec 8) 16

/-- A `char` as an `int`. -/
def promote (signed : Bool) (c : BitVec 8) : BitVec 32 :=
  if signed then c.signExtend 32 else c.setWidth 32

/-- The loop over `j`, with the number of rounds that are left. -/
def bitLoop : Nat → Nat → BitVec 32 → Option Nat
  | 0, _, _ => none
  | k + 1, j, x => if x &&& (1 <<< 7) ≠ 0 then some j else bitLoop k (j + 1) (x <<< 1)

def byteLoop (signed : Bool) : Nat → List (BitVec 8) → List (BitVec 8) → Nat
  | i, c₁ :: p₁, c₂ :: p₂ =>
    if promote signed c₁ = promote signed c₂ then byteLoop signed (i + 1) p₁ p₂
    else
      match bitLoop 8 0 (promote signed c₁ ^^^ promote signed c₂) with
      | some j => i * 8 + j
      | none => byteLoop signed (i + 1) p₁ p₂
  | _, _, _ => 16 * 8

def commonPrefixLen (signed : Bool) (a₁ a₂ : In6Addr) : Nat := byteLoop signed 0 a₁.toList a₂.toList

/-- The bits of some bytes, from the highest bit of the first one. -/
def bitAt (p : List (BitVec 8)) (k : Nat) : Bool := (p.getD (k / 8) 0).getMsbD (k % 8)

variable {signed : Bool} {c c₁ c₂ : BitVec 8} {p p₁ p₂ : List (BitVec 8)} {k : Nat}

theorem bitAt_cons : bitAt (c :: p) k = if k < 8 then c.getMsbD k else bitAt p (k - 8) := by
  unfold bitAt
  split
  next hk => simp [Nat.div_eq_of_lt hk, Nat.mod_eq_of_lt hk]
  next hk =>
    obtain ⟨k, rfl⟩ := Nat.exists_eq_add_of_le (Nat.not_lt.mp hk)
    simp [Nat.add_div_left]

theorem promote_getLsbD (h : k < 8) : (promote signed c).getLsbD k = c.getLsbD k := by
  unfold promote
  split
  · rw [getLsbD_signExtend]
    simp [h, Nat.lt_trans h]
  · simp [Nat.lt_trans h]

/-- Only the lowest eight bits matter. -/
theorem bitLoop_congr {j : Nat} {x y : BitVec 32} (h : ∀ t < 8, x.getLsbD t = y.getLsbD t) :
    bitLoop k j x = bitLoop k j y := by
  induction k generalizing j x y with
  | zero => rfl
  | succ k ih =>
    have htest (z : BitVec 32) : z &&& (1 <<< 7) ≠ 0 ↔ z.getLsbD 7 = true := by
      rw [show (1 <<< 7 : BitVec 32) = twoPow 32 7 from rfl, and_twoPow]
      cases z.getLsbD 7 <;> decide
    simp only [bitLoop, htest, h 7 (by decide)]
    rw [ih fun t ht => ?_]
    simp only [getLsbD_shiftLeft, h (t - 1) (by omega)]

theorem bitLoop_byte : ∀ d : BitVec 8, d ≠ 0 → ∃ j < 8, bitLoop 8 0 (d.setWidth 32) = some j ∧
    d.getMsbD j = true ∧ ∀ t < j, d.getMsbD t = false := by
  decide +kernel

/-- Where two bytes differ for the first time. -/
theorem bitLoop_xor (h : c₁ ≠ c₂) :
    ∃ j < 8, bitLoop 8 0 (promote signed c₁ ^^^ promote signed c₂) = some j ∧
      c₁.getMsbD j ≠ c₂.getMsbD j ∧ ∀ t < j, c₁.getMsbD t = c₂.getMsbD t := by
  obtain ⟨j, hj, hloop, hbit, hbefore⟩ := bitLoop_byte (c₁ ^^^ c₂) (by simpa using h)
  refine ⟨j, hj, ?_, by simpa using hbit, fun t ht => by simpa using hbefore t ht⟩
  rw [← hloop]
  refine bitLoop_congr fun t ht => ?_
  rw [getLsbD_xor, promote_getLsbD ht, promote_getLsbD ht]
  simp [ht, Nat.lt_trans ht]

theorem promote_inj (h : promote signed c₁ = promote signed c₂) : c₁ = c₂ := by
  refine eq_of_getLsbD_eq fun t ht => ?_
  rw [← promote_getLsbD ht, h, promote_getLsbD ht]

/-- What is left of the loop finds the first bit that differs in what is left of the bytes. -/
theorem byteLoop_spec {i : Nat} (hlen : p₁.length = p₂.length) (hi : i + p₁.length = 16) :
    ∃ m ≤ 8 * p₁.length, byteLoop signed i p₁ p₂ = 8 * i + m ∧
      (∀ k < m, bitAt p₁ k = bitAt p₂ k) ∧ (m < 8 * p₁.length → bitAt p₁ m ≠ bitAt p₂ m) := by
  induction p₁ generalizing i p₂ with
  | nil =>
    obtain rfl : i = 16 := hi
    exact ⟨0, Nat.zero_le _, by simp [byteLoop], by simp, by simp⟩
  | cons c₁ p₁ ih =>
    cases p₂ with
    | nil => cases hlen
    | cons c₂ p₂ =>
      simp only [List.length_cons] at hlen hi ⊢
      by_cases hc : c₁ = c₂
      · obtain ⟨m, hm, hloop, hsame, hdiff⟩ := @ih p₂ (i + 1) (by omega) (by omega)
        refine ⟨8 + m, by omega, ?_, fun k hk => ?_, fun hlt => ?_⟩
        · rw [byteLoop, if_pos (congrArg _ hc), hloop]
          omega
        · rw [bitAt_cons, bitAt_cons, hc]
          split
          · rfl
          · exact hsame _ (by omega)
        · rw [bitAt_cons, bitAt_cons, if_neg (by omega), if_neg (by omega), Nat.add_sub_cancel_left]
          exact hdiff (by omega)
      · obtain ⟨j, hj, hloop, hdiff, hsame⟩ := @bitLoop_xor signed c₁ c₂ hc
        refine ⟨j, by omega, ?_, fun k hk => ?_, fun _ => ?_⟩
        · rw [byteLoop, if_neg fun h => hc (promote_inj h), hloop, Nat.mul_comm]
        · rw [bitAt_cons, bitAt_cons, if_pos (by omega), if_pos (by omega), hsame k hk]
        · rw [bitAt_cons, bitAt_cons, if_pos hj, if_pos hj]
          exact hdiff

/-- The lengths of common prefixes. -/
def agreeing (a b : In6Addr) : Set Nat :=
  {n | n ≤ 128 ∧ ∀ k < n, bitAt a.toList k = bitAt b.toList k}

theorem isGreatest (signed : Bool) (a b : In6Addr) :
    IsGreatest (agreeing a b) (commonPrefixLen signed a b) := by
  obtain ⟨m, hm, hloop, hsame, hdiff⟩ := @byteLoop_spec signed a.toList b.toList 0 (by simp)
    (by simp)
  simp only [Vector.length_toList] at hm hdiff
  rw [commonPrefixLen, hloop, Nat.zero_add]
  refine ⟨⟨hm, hsame⟩, fun n ⟨hn, hagree⟩ => ?_⟩
  by_contra hlt
  exact hdiff (by omega) (hagree m (by omega))

/-- **The common prefix is the longest one**, and its length is an ultrametric. -/
theorem common_prefix_len (signed : Bool) :
    (∀ a b, IsGreatest (agreeing a b) (commonPrefixLen signed a b)) ∧
    (∀ a b, commonPrefixLen signed a b = commonPrefixLen signed b a) ∧
    ∀ a b c, min (commonPrefixLen signed a b) (commonPrefixLen signed b c) ≤
      commonPrefixLen signed a c := by
  refine ⟨isGreatest signed, fun a b => ?_, fun a b c => ?_⟩
  · have hcomm : agreeing a b = agreeing b a := by simp only [agreeing, eq_comm]
    exact (isGreatest signed a b).unique (hcomm ▸ isGreatest signed b a)
  · obtain ⟨hab, hsame⟩ := (isGreatest signed a b).1
    obtain ⟨-, hsame'⟩ := (isGreatest signed b c).1
    refine (isGreatest signed a c).2 ⟨by omega, fun k hk => ?_⟩
    rw [hsame k (by omega), hsame' k (by omega)]

end Netd.CommonPrefix
