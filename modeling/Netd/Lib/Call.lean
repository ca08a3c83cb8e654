import Mathlib.Data.List.Basic

/-!
# Calls with return codes

A *call* is a C-style function on a state: it returns an integer code, `0` for success, and leaves
a state behind whatever the code is. `Call.andThen` is `if (int ret = f()) return ret; ...`, and
`Call.each` the loop that leaves with the first nonzero code. Nothing rolls back.
-/

namespace Netd

/-- A call: a return code, `0` for success, and the state left behind. -/
abbrev Call (σ : Type*) := σ → Int × σ

namespace Call

variable {σ ν α : Type*}

/-- `return 0;` -/
def done : Call σ := fun s => (0, s)

def fail (e : Int) : Call σ := fun s => (e, s)

/-- `if (int ret = m()) return ret; return k();` -/
def andThen (m k : Call σ) : Call σ := fun s =>
  if (m s).1 = 0 then k (m s).2 else m s

/-- `for (x : xs) { if (int ret = f(x)) return ret; } return 0;` -/
def each (f : α → Call σ) : List α → Call σ
  | [] => done
  | x :: xs => (f x).andThen (each f xs)

/-- `(void) m();`: the code is dropped. -/
def ignore (m : Call σ) : Call σ := fun s => (0, (m s).2)

/-- Run a call on the second component. -/
def onSnd (m : Call σ) : Call (ν × σ) := fun p => ((m p.2).1, (p.1, (m p.2).2))

/-- Run a call on the second component and, only when it succeeds, write the first one. -/
def commit (m : Call σ) (f : ν → ν) : Call (ν × σ) := fun p =>
  if (m p.2).1 = 0 then (0, (f p.1, (m p.2).2)) else ((m p.2).1, (p.1, (m p.2).2))

/-! ## Inversion of successful calls -/

variable {s s' : σ} {k m : Call σ} {f : α → Call σ} {I : σ → Prop} {n : ν}

@[simp] theorem done_ok : (done s = (0, s')) ↔ s = s' := by
  simp [done]

theorem done_andThen (k : Call σ) : done.andThen k = k := by
  funext s
  exact if_pos rfl

theorem andThen_ok : m.andThen k s = (0, s') ↔ ∃ t, m s = (0, t) ∧ k t = (0, s') := by
  unfold andThen
  constructor
  · intro h
    split at h
    · next hz => exact ⟨(m s).2, Prod.ext hz rfl, h⟩
    · next hz => exact absurd (congrArg Prod.fst h) hz
  · rintro ⟨t, hm, hk⟩
    rw [hm]
    simpa using hk

theorem each_ok_cons {x : α} {xs : List α} :
    each f (x :: xs) s = (0, s') ↔ ∃ t, f x s = (0, t) ∧ each f xs t = (0, s') :=
  andThen_ok

theorem onSnd_ok {n' : ν} : onSnd m (n, s) = (0, (n', s')) ↔ n' = n ∧ m s = (0, s') := by
  simp only [onSnd, Prod.mk.injEq]
  constructor
  · rintro ⟨hz, hn, hs⟩
    exact ⟨hn.symm, Prod.ext hz hs⟩
  · rintro ⟨hn, hm⟩
    rw [hm]
    exact ⟨rfl, hn.symm, rfl⟩

theorem commit_ok {f : ν → ν} {n' : ν} :
    commit m f (n, s) = (0, (n', s')) ↔ n' = f n ∧ m s = (0, s') := by
  unfold commit
  constructor
  · intro h
    split at h
    · rename_i hz
      simp only [Prod.mk.injEq, true_and] at h
      exact ⟨h.1.symm, Prod.ext hz h.2⟩
    · next hz => exact absurd (congrArg Prod.fst h) hz
  · rintro ⟨hn, hm⟩
    rw [hm, hn]
    simp

theorem commit_code (m : Call σ) (f : ν → ν) (n : ν) (s : σ) : (commit m f (n, s)).1 = (m s).1 := by
  rw [commit]
  split
  · next hz => exact hz.symm
  · rfl

theorem each_ok_forall {Q : α → Prop} (hf : ∀ x s s', f x s = (0, s') → Q x) :
    ∀ {xs : List α} {s s' : σ}, each f xs s = (0, s') → ∀ x ∈ xs, Q x
  | [], _, _, _, x, hx => by simp at hx
  | y :: ys, _, _, h, x, hx => by
    obtain ⟨t, hy, hys⟩ := each_ok_cons.mp h
    cases List.mem_cons.mp hx with
    | inl he => subst he; exact hf _ _ _ hy
    | inr hm => exact each_ok_forall hf hys x hm

/-- The loop rule for successful runs. -/
theorem each_ok_induct {P : List α → σ → Prop}
    (step : ∀ x rest s s', P (x :: rest) s → f x s = (0, s') → P rest s') :
    ∀ {rest : List α} {s s' : σ}, P rest s → each f rest s = (0, s') → P [] s'
  | [], _, _, hP, h => done_ok.mp h ▸ hP
  | x :: rest, _, _, hP, h => by
    obtain ⟨t, hx, hrest⟩ := each_ok_cons.mp h
    exact each_ok_induct step (step x rest _ t hP hx) hrest

/-! ## Invariants of calls that may fail -/

theorem andThen_elim {P : Int × σ → Prop} (hok : (m s).1 = 0 → P (k (m s).2))
    (hfail : (m s).1 ≠ 0 → P (m s)) : P (m.andThen k s) := by
  rw [andThen]
  split
  · next hz => exact hok hz
  · next hz => exact hfail hz

/-- The two ways through a method: the object is written, or left alone. -/
theorem commit_elim {P : Int × ν × σ → Prop} {f : ν → ν} (hok : (m s).1 = 0 → P (0, (f n, (m s).2)))
    (hfail : (m s).1 ≠ 0 → P ((m s).1, (n, (m s).2))) : P (commit m f (n, s)) := by
  rw [commit]
  split
  · next hz => exact hok hz
  · next hz => exact hfail hz

/-- `I` survives `m`, whatever `m` returns. -/
def Keeps (I : σ → Prop) (m : Call σ) : Prop := ∀ s, I s → I (m s).2

theorem keeps_done (I : σ → Prop) : Keeps I done := fun _ h => h

theorem keeps_fail (I : σ → Prop) (e : Int) : Keeps I (fail e) := fun _ h => h

theorem Keeps.run {e : Int} (hk : Keeps I m) (hs : I s) (hm : m s = (e, s')) : I s' := by
  have hkept := hk s hs
  rwa [hm] at hkept

theorem Keeps.andThen (hm : Keeps I m) (hk : Keeps I k) : Keeps I (m.andThen k) := by
  intro s hs
  exact andThen_elim (P := fun r => I r.2) (fun _ => hk _ (hm s hs)) (fun _ => hm s hs)

theorem Keeps.ignore (hm : Keeps I m) : Keeps I (Call.ignore m) := fun s hs => hm s hs

theorem Keeps.each (hf : ∀ x, Keeps I (f x)) : ∀ xs, Keeps I (each f xs)
  | [] => keeps_done I
  | x :: xs => (hf x).andThen (Keeps.each hf xs)

end Call

end Netd
