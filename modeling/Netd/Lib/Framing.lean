import Mathlib.Data.List.Basic

/-!
# Length-prefixed frames

A stream is cut into frames: each begins with a header of a fixed length, which gives the length of
the body that follows. `Framing.frames` are the bodies of the complete frames at the beginning of a
stream. What is left is the beginning of one more frame.
-/

namespace Netd

open List

/-- The length of a header and the length of the body that it announces. -/
structure Framing (β : Type*) where
  header : Nat
  header_pos : 0 < header
  size : List β → Nat

namespace Framing

variable {β : Type*} (F : Framing β) {s t f body rest : List β} {fs : List (List β)}

def IsFrame (f body : List β) : Prop :=
  ∃ h, h.length = F.header ∧ body.length = F.size h ∧ f = h ++ body

/-- The length that the header at the beginning of a stream announces for its frame. -/
def frameLength (s : List β) : Nat := F.header + F.size (s.take F.header)

/-- The body of the first frame and the rest of the stream, if the frame is complete. -/
def next? (s : List β) : Option (List β × List β) :=
  if F.frameLength s ≤ s.length then
    some ((s.take (F.frameLength s)).drop F.header, s.drop (F.frameLength s))
  else none

def framesUpTo : Nat → List β → List (List β)
  | 0, _ => []
  | n + 1, s =>
    match F.next? s with
    | none => []
    | some (body, rest) => body :: framesUpTo n rest

/-- The bodies of the complete frames at the beginning of a stream. -/
def frames (s : List β) : List (List β) := F.framesUpTo s.length s

/-- A stream of complete frames with these bodies. -/
inductive Whole : List β → List (List β) → Prop where
  | nil : Whole [] []
  | cons {f body c : List β} {fs : List (List β)} :
      F.IsFrame f body → Whole c fs → Whole (f ++ c) (body :: fs)

variable {F}

/-! ## One frame -/

theorem IsFrame.length_pos (h : F.IsFrame f body) : 0 < f.length := by
  obtain ⟨hdr, hlen, -, rfl⟩ := h
  have hpos := F.header_pos
  rw [length_append]
  omega

theorem IsFrame.frameLength (h : F.IsFrame f body) (s : List β) :
    F.frameLength (f ++ s) = f.length := by
  obtain ⟨hdr, hlen, hbody, rfl⟩ := h
  have htake : (hdr ++ body ++ s).take F.header = hdr := by
    rw [append_assoc, ← hlen, take_left]
  rw [Framing.frameLength, htake, length_append, hlen, hbody]

theorem IsFrame.next? (h : F.IsFrame f body) (s : List β) : F.next? (f ++ s) = some (body, s) := by
  have hbody : f.drop F.header = body := by
    obtain ⟨hdr, hlen, -, rfl⟩ := h
    rw [← hlen, drop_left]
  rw [Framing.next?, h.frameLength, if_pos (by simp), take_left, drop_left, hbody]

theorem isFrame_of_next? (h : F.next? s = some (body, rest)) :
    ∃ f, F.IsFrame f body ∧ s = f ++ rest := by
  obtain ⟨hle, hs⟩ := Option.ite_none_right_eq_some.mp h
  obtain ⟨rfl, rfl⟩ := Prod.mk.inj (Option.some.inj hs)
  refine ⟨s.take (F.frameLength s), ⟨s.take F.header, ?_, ?_, ?_⟩, (take_append_drop ..).symm⟩
  · unfold frameLength at hle
    rw [length_take]
    omega
  · rw [length_drop, length_take]
    unfold frameLength at hle ⊢
    omega
  · have hhead : s.take F.header = (s.take (F.frameLength s)).take F.header := by
      rw [take_take]
      congr 1
      unfold frameLength
      omega
    rw [hhead, take_append_drop]

theorem next?_nil : F.next? [] = none := by
  have hpos := F.header_pos
  rw [next?, if_neg]
  simp only [frameLength, length_nil]
  omega

/-! ## The frames of a stream -/

theorem framesUpTo_eq {n m : Nat} (hn : s.length ≤ n) (hm : s.length ≤ m) :
    F.framesUpTo n s = F.framesUpTo m s := by
  induction n generalizing s m with
  | zero =>
    obtain rfl := length_eq_zero_iff.mp (Nat.le_zero.mp hn)
    cases m with
    | zero => rfl
    | succ m => simp only [framesUpTo, next?_nil]
  | succ n ih =>
    cases m with
    | zero =>
      obtain rfl := length_eq_zero_iff.mp (Nat.le_zero.mp hm)
      simp only [framesUpTo, next?_nil]
    | succ m =>
      simp only [framesUpTo]
      cases hnext : F.next? s with
      | none => rfl
      | some p =>
        obtain ⟨f, hf, rfl⟩ := isFrame_of_next? hnext
        have hpos := hf.length_pos
        rw [length_append] at hn hm
        exact congrArg (p.1 :: ·) (ih (by omega) (by omega))

theorem frames_eq_nil (h : F.next? s = none) : F.frames s = [] := by
  unfold frames
  cases s with
  | nil => rfl
  | cons x s => simp only [length_cons, framesUpTo, h]

theorem IsFrame.frames_append (h : F.IsFrame f body) (s : List β) :
    F.frames (f ++ s) = body :: F.frames s := by
  have hpos := h.length_pos
  obtain ⟨n, hn⟩ : ∃ n, (f ++ s).length = n + 1 := by
    refine ⟨(f ++ s).length - 1, ?_⟩
    rw [length_append]
    omega
  have hle : s.length ≤ n := by
    rw [length_append] at hn
    omega
  unfold frames
  rw [hn, framesUpTo, h.next? s]
  exact congrArg (body :: ·) (framesUpTo_eq hle (Nat.le_refl _))

namespace Whole

variable {c : List β}

theorem frames_append (h : F.Whole c fs) (s : List β) : F.frames (c ++ s) = fs ++ F.frames s := by
  induction h with
  | nil => rfl
  | cons hf _ ih => rw [append_assoc, hf.frames_append, ih, cons_append]

theorem snoc (h : F.Whole c fs) (hf : F.IsFrame f body) : F.Whole (c ++ f) (fs ++ [body]) := by
  induction h with
  | nil =>
    have hone := cons hf nil
    rwa [append_nil] at hone
  | cons hg _ ih =>
    rw [append_assoc]
    exact cons hg ih

end Whole

theorem exists_whole (F : Framing β) (s : List β) : ∃ c r, s = c ++ r ∧ F.Whole c (F.frames s) := by
  induction hlen : s.length using Nat.strongRecOn generalizing s with
  | ind n ih =>
    cases hnext : F.next? s with
    | none => exact ⟨[], s, rfl, by rw [frames_eq_nil hnext]; exact .nil⟩
    | some p =>
      obtain ⟨f, hf, rfl⟩ := isFrame_of_next? hnext
      have hpos := hf.length_pos
      rw [length_append] at hlen
      obtain ⟨c, r, hs, hwhole⟩ := ih p.2.length (by omega) p.2 rfl
      refine ⟨f ++ c, r, ?_, ?_⟩
      · rw [append_assoc, ← hs]
      · rw [hf.frames_append]
        exact .cons hf hwhole

theorem length_frames_le (s t : List β) : (F.frames s).length ≤ (F.frames (s ++ t)).length := by
  obtain ⟨c, r, hs, hwhole⟩ := F.exists_whole s
  have hframes : F.frames (s ++ t) = F.frames s ++ F.frames (r ++ t) := by
    rw [← hwhole.frames_append, ← append_assoc, ← hs]
  rw [hframes, length_append]
  exact Nat.le_add_right _ _

end Framing

end Netd
