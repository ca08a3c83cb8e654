import Mathlib.Order.Interval.Finset.Nat
import Netd.Kernel.FibRules

/-!
# Security parameter indices

`allocateSpi` asks the kernel for one SPI of a range after the other, as `RandomSpi` gives them:
it counts from a random number on, modulo the size of the range. The numbers are 32-bit words, and
with a range of nearly all of them the count comes to its end and goes on at 0.
-/

namespace Netd.XfrmController

open List Errno

structure RandomSpi where
  mNext : Nat
  mSize : Nat
  mMin : Nat
  mCount : Nat

namespace RandomSpi

/-- The constructor, with the number between 1 and `INT_MAX` that it draws. -/
def ofRange (min max draw : Nat) : RandomSpi :=
  let size := (max + 2 ^ 32 - min + 1) % 2 ^ 32
  ⟨draw, size, min, size⟩

def next (g : RandomSpi) : Nat × RandomSpi :=
  if g.mCount = 0 then (0, g)
  else ((g.mNext % g.mSize + g.mMin) % 2 ^ 32,
    { g with mNext := (g.mNext + 1) % 2 ^ 32, mCount := g.mCount - 1 })

/-- What successive calls of `next` return. -/
def calls : Nat → RandomSpi → List Nat
  | 0, _ => []
  | n + 1, g => g.next.1 :: calls n g.next.2

theorem calls_eq {n : Nat} {g : RandomSpi} (hn : n ≤ g.mCount) (hnext : g.mNext < 2 ^ 32) :
    calls n g = (range n).map fun k =>
      ((g.mNext + k) % 2 ^ 32 % g.mSize + g.mMin) % 2 ^ 32 := by
  induction n generalizing g with
  | zero => rfl
  | succ n ih =>
    have hcount : g.mCount ≠ 0 := by omega
    have hrest := @ih g.next.2 (by simp only [next, if_neg hcount]; omega)
      (by simp only [next, if_neg hcount]; omega)
    rw [calls, hrest, range_succ_eq_map, map_cons, map_map]
    simp only [next, if_neg hcount, Nat.mod_eq_of_lt hnext, Nat.add_zero]
    congr 2
    funext k
    simp only [Function.comp, Nat.mod_add_mod]
    rw [Nat.add_assoc, Nat.add_comm 1 k]

theorem calls_end (g : RandomSpi) : calls (g.mCount + 1) g = calls g.mCount g ++ [0] := by
  obtain ⟨mNext, mSize, mMin, mCount⟩ := g
  induction mCount generalizing mNext with
  | zero => rfl
  | succ n ih => exact congrArg (_ :: ·) (ih _)

end RandomSpi

/-- What `allocateSpi` returns and stores, and the SPIs that the kernel refused. -/
structure Allocation where
  ret : Int
  outSpi : Option Nat
  refused : List Nat

/-- The loop of `allocateSpi`. The kernel may go by what it has refused before. -/
def allocateLoop (kernel : List Nat → Nat → Int) : Nat → RandomSpi → Int → List Nat → Allocation
  | 0, _, ret, refused => ⟨ret, none, refused⟩
  | fuel + 1, g, ret, refused =>
    let spi := g.next.1
    if spi = 0 then ⟨ret, none, refused⟩
    else
      let ret := kernel refused spi
      if ret = enoent then allocateLoop kernel fuel g.next.2 ret (refused ++ [spi])
      else if ret = 0 then ⟨ret, some spi, refused⟩
      else ⟨ret, some 0, refused⟩

def allocateSpi (kernel : List Nat → Nat → Int) (minSpi maxSpi draw : Nat) : Allocation :=
  let spiGen := RandomSpi.ofRange minSpi maxSpi draw
  allocateLoop kernel (spiGen.mCount + 1) spiGen 0 []

open RandomSpi

theorem allocateLoop_refused {kernel : List Nat → Nat → Int} {g : RandomSpi} {ret : Int}
    {refused : List Nat} (hcalls : ∀ spi ∈ g.calls g.mCount, spi ≠ 0)
    (h : (allocateLoop kernel (g.mCount + 1) g ret refused).ret = enoent) :
    refused ++ g.calls g.mCount = (allocateLoop kernel (g.mCount + 1) g ret refused).refused := by
  obtain ⟨mNext, mSize, mMin, mCount⟩ := g
  induction mCount generalizing mNext ret refused with
  | zero => exact append_nil _
  | succ n ih =>
    rw [calls, forall_mem_cons] at hcalls
    rw [allocateLoop] at h ⊢
    simp only [if_neg hcalls.1] at h ⊢
    split at h
    · rename_i href
      rw [if_pos href]
      refine Eq.trans ?_ (ih _ hcalls.2 h)
      exact append_cons ..
    · rename_i hgranted
      split at h <;> exact absurd h hgranted

section

variable {min max draw : Nat} (hmin : 1 ≤ min) (hle : min ≤ max) (hmax : max < 2 ^ 32)
include hmin hle hmax

theorem calls_range (hdraw : draw < 2 ^ 31) :
    let g := ofRange min max draw
    g.mCount = max - min + 1 ∧ g.calls g.mCount =
      (range (max - min + 1)).map fun k => (draw + k) % 2 ^ 32 % (max - min + 1) + min := by
  intro g
  have hsize : (max + 2 ^ 32 - min + 1) % 2 ^ 32 = max - min + 1 := by omega
  have hcount : g.mCount = max - min + 1 := hsize
  refine ⟨hcount, ?_⟩
  have hnext : g.mNext < 2 ^ 32 := show draw < 2 ^ 32 by omega
  rw [calls_eq le_rfl hnext, hcount]
  refine map_congr_left fun k _ => ?_
  have hlt := Nat.mod_lt ((draw + k) % 2 ^ 32) (show 0 < max - min + 1 by omega)
  simp only [g, ofRange, hsize]
  rw [Nat.mod_eq_of_lt (by omega)]

/-- A count that starts again comes to the first SPI twice: at the size of the range, and at 0. -/
theorem not_nodup_calls (hdraw : draw < 2 ^ 31) (hwrap : 2 ^ 32 < draw + (max - min + 1)) :
    ¬((ofRange min max draw).calls (max - min + 1)).Nodup := by
  obtain ⟨hcount, hcalls⟩ := calls_range hmin hle hmax hdraw
  rw [← hcount, hcalls]
  intro hnodup
  have hzero : (draw + (2 ^ 32 - draw)) % 2 ^ 32 = 0 := by omega
  have hsize : (draw + (max - min + 1 - draw)) % 2 ^ 32 = max - min + 1 := by omega
  have hsame := inj_on_of_nodup_map hnodup (x := 2 ^ 32 - draw) (mem_range.mpr (by omega))
    (y := max - min + 1 - draw) (mem_range.mpr (by omega))
    (by rw [hzero, hsize, Nat.zero_mod, Nat.mod_self])
  omega

/-- **The whole range is tried** exactly if the count does not start again: every SPI is returned
once before 0, and there is none only if the kernel refused them all. -/
theorem whole_range_tried (hdraw : draw < 2 ^ 31) :
    (∃ spis, (RandomSpi.ofRange min max draw).calls (max - min + 2) = spis ++ [0] ∧
      spis.Nodup ∧ (∀ spi, spi ∈ spis ↔ min ≤ spi ∧ spi ≤ max) ∧
      ∀ kernel, (allocateSpi kernel min max draw).ret = enoent →
        ∀ spi, min ≤ spi → spi ≤ max → spi ∈ (allocateSpi kernel min max draw).refused) ↔
      draw + (max - min + 1) ≤ 2 ^ 32 := by
  obtain ⟨hcount, hcalls⟩ := calls_range hmin hle hmax hdraw
  let g := ofRange min max draw
  have hend := calls_end g
  nth_rewrite 1 [hcount] at hend
  constructor
  · rintro ⟨spis, hspis, hnodup, -⟩
    by_contra hwrap
    refine not_nodup_calls hmin hle hmax hdraw (by omega) ?_
    rw [← hcount, (append_inj' (hend.symm.trans hspis) rfl).1]
    exact hnodup
  intro hwrap
  have hshift : g.calls g.mCount =
      (range' draw (max - min + 1)).map fun k => k % (max - min + 1) + min := by
    rw [hcalls, range'_eq_map_range, map_map]
    refine map_congr_left fun k hk => ?_
    have hk := mem_range.mp hk
    rw [Function.comp, Nat.mod_eq_of_lt (show draw + k < 2 ^ 32 by omega)]
  have hmem : ∀ spi, spi ∈ g.calls g.mCount ↔ min ≤ spi ∧ spi ≤ max := by
    intro spi
    have himage := Finset.ext_iff.mp (Nat.image_Ico_mod draw (max - min + 1)) (spi - min)
    simp only [Finset.mem_image, Finset.mem_Ico, Finset.mem_range] at himage
    rw [hshift, mem_map]
    constructor
    · rintro ⟨k, -, rfl⟩
      have hlt := Nat.mod_lt k (show 0 < max - min + 1 by omega)
      omega
    · intro hspi
      obtain ⟨k, hk, hmod⟩ := himage.mpr (by omega)
      exact ⟨k, mem_range'_1.mpr hk, by omega⟩
  refine ⟨g.calls g.mCount, hend, ?_, hmem, fun kernel hret spi hlo hhi => ?_⟩
  · rw [hshift]
    refine List.Nodup.map_on (fun x hx y hy hxy => ?_) nodup_range'
    refine Nat.mod_injOn_Ico draw _ ?_ ?_ (Nat.add_right_cancel hxy)
    · simpa using mem_range'_1.mp hx
    · simpa using mem_range'_1.mp hy
  · have hne : ∀ spi ∈ g.calls g.mCount, spi ≠ 0 := fun spi hspi =>
      Nat.ne_zero_of_lt (hmin.trans ((hmem spi).mp hspi).1)
    exact allocateLoop_refused hne hret ▸ mem_append_right _ ((hmem spi).mpr ⟨hlo, hhi⟩)

end

theorem whole_range_tried_sample :
    ∃ spis, (RandomSpi.ofRange 256 260 1000).calls 6 = spis ++ [0] ∧ spis.Nodup ∧
      ∀ spi, spi ∈ spis ↔ 256 ≤ spi ∧ spi ≤ 260 := by
  obtain ⟨spis, hcalls, hnodup, hmem, -⟩ := (whole_range_tried (show 0 < 256 by decide)
    (show 256 ≤ 260 by decide) (by decide) (show 1000 < 2 ^ 31 by decide)).mpr (by decide)
  exact ⟨spis, hcalls, hnodup, hmem⟩

/-- Between `RAND_SPI_MIN` and `RAND_SPI_MAX`, from 258 on, 256 is tried twice and 513 never. -/
theorem whole_range_not_tried : let g := ofRange 256 0xFFFFFFFE 258
    ¬(g.calls g.mCount).Nodup ∧ 513 ∉ g.calls g.mCount := by
  intro g
  have hcalls := calls_eq (g := g) le_rfl (by decide)
  have hg : g = ⟨258, 4294967039, 256, 4294967039⟩ := rfl
  rw [hcalls, hg]
  constructor
  · intro hnodup
    have hinj := inj_on_of_nodup_map hnodup
    cases hinj (x := 4294966781) (by simp) (y := 4294967038) (by simp) (by decide)
  · rw [mem_map]
    rintro ⟨k, hk, hspi⟩
    have hk := mem_range.mp hk
    simp only at hk hspi
    omega

end Netd.XfrmController
