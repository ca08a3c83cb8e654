import Mathlib.Data.Nat.Digits.Lemmas
import Netd.Resolv.DnsTlsServer

/-!
# Slices of a netlink buffer

A slice is an interval of offsets in the buffer. The loops have fuel, and `none` is a loop that has
used it up.
-/

namespace Netd.Netlink

open List

structure Slice where
  base : Nat
  limit : Nat

def Slice.size (s : Slice) : Nat := s.limit - s.base

def split (s : Slice) (cut : Nat) : Slice × Slice :=
  let tmp := min cut s.size
  (⟨s.base, s.base + tmp⟩, ⟨s.base + tmp, s.limit⟩)

def take (s : Slice) (cut : Nat) : Slice := (split s cut).1
def drop (s : Slice) (cut : Nat) : Slice := (split s cut).2

/-- `(x + mask) & ~mask`, for a `size_t` of `w` bits. -/
def align (w x shift : Nat) : Nat := (x + (2 ^ shift - 1)) % 2 ^ w / 2 ^ shift * 2 ^ shift

/-- The size of a header and that of the length with which it begins. -/
structure Header where
  size : Nat
  lenSize : Nat

def nlmsghdr : Header := ⟨16, 4⟩
def nlattr : Header := ⟨4, 2⟩

/-- `nlmsg_len` or `nla_len` of the header at an offset. -/
def Header.len (hdr : Header) (buf : List Byte) (offset : Nat) : Nat :=
  Nat.ofDigits 256 (((buf.drop offset).take hdr.lenSize).map Fin.val)

/-- A header and a payload for each call of the callback. -/
def forEach (w : Nat) (hdr : Header) (buf : List Byte) :
    Nat → Slice → Option (List (Slice × Slice))
  | 0, _ => none
  | fuel + 1, tail =>
    if hdr.size ≤ tail.size then
      let len := max (hdr.len buf tail.base) hdr.size
      (forEach w hdr buf fuel (drop tail (align w len 2))).map fun calls =>
        (take tail hdr.size, drop (take tail len) hdr.size) :: calls
    else some []

def forEachNetlinkMessage (w : Nat) (buf : List Byte) (fuel : Nat) :=
  forEach w nlmsghdr buf fuel ⟨0, buf.length⟩

def forEachNetlinkAttribute (w : Nat) (buf : List Byte) (fuel : Nat) :=
  forEach w nlattr buf fuel ⟨0, buf.length⟩

variable {w fuel : Nat} {hdr : Header} {buf : List Byte} {tail : Slice}

theorem len_lt (hdr : Header) (buf : List Byte) (offset : Nat) :
    hdr.len buf offset < 256 ^ hdr.lenSize := by
  refine (Nat.ofDigits_lt_base_pow_length (by decide) fun d hd => ?_).trans_le
    (Nat.pow_le_pow_right (by decide) (by simp))
  obtain ⟨b, -, rfl⟩ := mem_map.mp hd
  exact b.isLt

theorem le_align {x : Nat} (h : x + 3 < 2 ^ w) : x ≤ align w x 2 := by
  change x ≤ (x + 3) % 2 ^ w / 4 * 4
  rw [Nat.mod_eq_of_lt h]
  omega

/-- Not more calls than headers fit, with slices in the part, one behind the other. -/
structure Sliced (hdr : Header) (tail : Slice) (calls : List (Slice × Slice)) : Prop where
  count : calls.length ≤ tail.size / hdr.size
  inside : ∀ s ∈ calls.flatMap fun c => [c.1, c.2],
    tail.base ≤ s.base ∧ s.base ≤ s.limit ∧ s.limit ≤ tail.limit
  ordered : (calls.flatMap fun c => [c.1, c.2]).Pairwise fun s t => s.limit ≤ t.base

/-- The offsets that a loop comes to. -/
inductive Reached (w : Nat) (hdr : Header) (buf : List Byte) : Nat → Prop
  | start : Reached w hdr buf 0
  | next {offset : Nat} : Reached w hdr buf offset →
    Reached w hdr buf (offset + align w (max (hdr.len buf offset) hdr.size) 2)

theorem forEach_sliced (hpos : 0 < hdr.size)
    (hlen : ∀ offset, Reached w hdr buf offset → offset + hdr.size ≤ tail.limit →
      max (hdr.len buf offset) hdr.size + 3 < 2 ^ w)
    (htail : hdr.size ≤ tail.size → Reached w hdr buf tail.base) (hfuel : tail.size < fuel) :
    ∃ calls, forEach w hdr buf fuel tail = some calls ∧ Sliced hdr tail calls := by
  induction fuel generalizing tail with
  | zero => omega
  | succ fuel ih =>
    unfold forEach
    split
    next hsize =>
      dsimp only
      have hreached := (htail hsize).next
      have halign := le_align (hlen tail.base (htail hsize) (by
        rw [Slice.size] at hsize
        omega))
      have hlen' := le_max_right (hdr.len buf tail.base) hdr.size
      generalize max (hdr.len buf tail.base) hdr.size = len at *
      generalize align w len 2 = next at *
      simp only [Slice.size] at *
      obtain ⟨calls, hcalls, hcount, hin, hord⟩ := @ih (drop tail next) hlen (by
        simp only [drop, split, Slice.size]
        intro hle
        rwa [min_eq_left (by omega)]) (by
        simp only [drop, split, Slice.size]
        omega)
      simp only [drop, take, split, Slice.size, Nat.le_div_iff_mul_le hpos] at *
      rw [hcalls]
      refine ⟨_, rfl, ?_, ?_, ?_⟩
      · rw [Nat.le_div_iff_mul_le hpos, Slice.size, length_cons, Nat.add_mul]
        omega
      · simp only [flatMap_cons, cons_append, nil_append, forall_mem_cons]
        refine ⟨by omega, by omega, fun s hs => ?_⟩
        have := hin s hs
        omega
      · simp only [flatMap_cons, cons_append, nil_append, pairwise_cons, forall_mem_cons]
        refine ⟨⟨by omega, fun s hs => ?_⟩, fun s hs => ?_, hord⟩ <;>
          have := hin s hs <;> omega
    next hsize => exact ⟨[], rfl, by simp, by simp, by simp⟩

/-- A loop that never ends behind an offset never ends before it. -/
theorem forEach_eq_none_of_reached {limit offset : Nat} (h : Reached w hdr buf offset)
    (hpos : 0 < hdr.size) (hsize : offset + hdr.size ≤ limit)
    (hnone : ∀ fuel, forEach w hdr buf fuel ⟨offset, limit⟩ = none) (fuel : Nat) :
    forEach w hdr buf fuel ⟨0, limit⟩ = none := by
  induction h generalizing fuel with
  | start => exact hnone fuel
  | @next offset _ ih =>
    refine ih (by omega) (fun fuel => ?_) fuel
    cases fuel with
    | zero => rfl
    | succ fuel =>
      have hle : hdr.size ≤ Slice.size ⟨offset, limit⟩ := by
        simp only [Slice.size]
        omega
      have hdrop : drop ⟨offset, limit⟩ (align w (max (hdr.len buf offset) hdr.size) 2) =
          ⟨offset + align w (max (hdr.len buf offset) hdr.size) 2, limit⟩ := by
        simp only [drop, split, Slice.size]
        rw [min_eq_left (by omega)]
      rw [forEach, if_pos hle]
      simp only [hdrop, hnone, Option.map_none]

/-- A message whose length wraps around to 0 is sliced again and again. -/
theorem forEach_wrapped {offset limit : Nat} (hsize : offset + 16 ≤ limit)
    (hlen : 2 ^ 32 - 4 < nlmsghdr.len buf offset) (fuel : Nat) :
    forEach 32 nlmsghdr buf fuel ⟨offset, limit⟩ = none := by
  have hlt := len_lt nlmsghdr buf offset
  have hle : nlmsghdr.size ≤ Slice.size ⟨offset, limit⟩ := by
    simp only [Slice.size, nlmsghdr]
    omega
  have halign : align 32 (max (nlmsghdr.len buf offset) nlmsghdr.size) 2 = 0 := by
    simp only [align, nlmsghdr] at *
    omega
  have hdrop : drop ⟨offset, limit⟩ 0 = ⟨offset, limit⟩ := by
    simp [drop, split]
  induction fuel with
  | zero => rfl
  | succ fuel ih =>
    rw [forEach, if_pos hle]
    simp only [halign, hdrop, ih, Option.map_none]

/-- **The loops end** exactly if no length of a message wraps around in a `size_t` of 32 bits. -/
theorem forEach_terminates (hw : w = 32 ∨ w = 64) (buf : List Byte) :
    ((∃ fuel calls, forEachNetlinkMessage w buf fuel = some calls ∧
        Sliced nlmsghdr ⟨0, buf.length⟩ calls) ∧
      ∃ fuel calls, forEachNetlinkAttribute w buf fuel = some calls ∧
        Sliced nlattr ⟨0, buf.length⟩ calls) ↔
      (w = 32 → ∀ offset, Reached w nlmsghdr buf offset → offset + 16 ≤ buf.length →
        nlmsghdr.len buf offset ≤ 2 ^ 32 - 4) := by
  constructor
  · rintro ⟨⟨fuel, calls, hcalls, -⟩, -⟩ rfl offset hreached hsize
    by_contra hlen
    have hnone := forEach_eq_none_of_reached hreached (by decide) hsize
      (forEach_wrapped hsize (not_le.mp hlen)) fuel
    rw [forEachNetlinkMessage, hnone] at hcalls
    cases hcalls
  intro hlen
  refine ⟨⟨_, forEach_sliced (by decide) (fun offset h hle => ?_) (fun _ => .start)
    (Nat.lt_succ_self _)⟩, ⟨_, forEach_sliced (by decide) (fun offset h hle => ?_) (fun _ => .start)
    (Nat.lt_succ_self _)⟩⟩
  · have hlt := len_lt nlmsghdr buf offset
    simp only [nlmsghdr] at *
    rcases hw with rfl | rfl
    · have := hlen rfl offset h hle
      omega
    · omega
  · have hlt := len_lt nlattr buf offset
    simp only [nlattr] at *
    rcases hw with rfl | rfl <;> omega

theorem forEach_terminates_zeros : ∃ fuel calls,
    forEachNetlinkMessage 32 (replicate 32 0) fuel = some calls ∧
      Sliced nlmsghdr ⟨0, 32⟩ calls := by
  refine ((forEach_terminates (.inl rfl) (replicate 32 0)).mpr fun _ offset _ hsize => ?_).1
  have hzero : ∀ offset < 17, nlmsghdr.len (replicate 32 0) offset ≤ 2 ^ 32 - 4 := by decide
  exact hzero offset (by simp only [length_replicate] at hsize; omega)

/-- The length is `0xffffffff`, and `tail` stays. -/
theorem message_repeats : forEachNetlinkMessage 32 (replicate 16 255) = fun _ => none := by
  funext fuel
  induction fuel with
  | zero => rfl
  | succ fuel ih => exact congrArg (Option.map _) ih

end Netd.Netlink
