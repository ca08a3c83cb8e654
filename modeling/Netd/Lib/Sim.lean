import Netd.Lib.Call

/-!
# Two runs side by side

`Call.Sim R m m'` says that `m` and `m'`, started in states related by `R`, return the same code
and leave related states. With `R` a property of one state this is an invariant (`Sim.keeps`); with
`R` an equality up to some part of the state it says that the part is not read.
-/

namespace Netd.Call

open Call

variable {σ τ ν α : Type*} {R : σ → τ → Prop}

/-- From related states the calls return the same code and leave related states. -/
def Sim (R : σ → τ → Prop) (m : Call σ) (m' : Call τ) : Prop :=
  ∀ s t, R s t → (m s).1 = (m' t).1 ∧ R (m s).2 (m' t).2

/-- The same code, the same object, related states. -/
structure Agree (R : σ → τ → Prop) (r : Int × ν × σ) (r' : Int × ν × τ) : Prop where
  code : r.1 = r'.1
  object : r.2.1 = r'.2.1
  state : R r.2.2 r'.2.2

/-! ## Calls -/

theorem sim_done : Sim R done done := fun _ _ h => ⟨rfl, h⟩

theorem sim_fail (e : Int) : Sim R (fail e) (fail e) := fun _ _ h => ⟨rfl, h⟩

variable {m : Call σ} {m' : Call τ} {n : ν} {s : σ} {t : τ} {I : σ → Prop}

theorem Sim.andThen {k : Call σ} {k' : Call τ} (hm : Sim R m m') (hk : Sim R k k') :
    Sim R (m.andThen k) (m'.andThen k') := by
  intro s t h
  obtain ⟨hcode, hstate⟩ := hm s t h
  rw [Call.andThen, Call.andThen, ← hcode]
  split
  · exact hk _ _ hstate
  · exact ⟨hcode, hstate⟩

theorem Sim.ignore (hm : Sim R m m') : Sim R (ignore m) (ignore m') :=
  fun s t h => ⟨rfl, (hm s t h).2⟩

theorem Sim.each {f : α → Call σ} {f' : α → Call τ} :
    ∀ {xs : List α}, (∀ x ∈ xs, Sim R (f x) (f' x)) → Sim R (each f xs) (each f' xs)
  | [], _ => sim_done
  | x :: _, h => (h x List.mem_cons_self).andThen
      (Sim.each fun y hy => h y (List.mem_cons_of_mem x hy))

theorem Sim.ite {p : Prop} [Decidable p] {k : Call σ} {k' : Call τ} (hm : p → Sim R m m')
    (hk : ¬ p → Sim R k k') : Sim R (if p then m else k) (if p then m' else k') := by
  split
  · next hp => exact hm hp
  · next hp => exact hk hp

/-- A property of single states, as a relation. -/
def Both (I : σ → Prop) (s t : σ) : Prop := s = t ∧ I s

theorem Sim.keeps (h : Sim (Both I) m m) : Keeps I m := fun s hs => (h s s ⟨rfl, hs⟩).2.2

theorem Keeps.sim (h : Keeps I m) : Sim (Both I) m m := by
  rintro s _ ⟨rfl, hs⟩
  exact ⟨rfl, rfl, h s hs⟩

/-! ## Methods -/

theorem Agree.done {e : Int} (h : R s t) : Agree R (e, (n, s)) (e, (n, t)) := ⟨rfl, rfl, h⟩

theorem Sim.onSnd (hm : Sim R m m') (h : R s t) : Agree R (onSnd m (n, s)) (onSnd m' (n, t)) :=
  ⟨(hm s t h).1, rfl, (hm s t h).2⟩

theorem Sim.commit (hm : Sim R m m') (f : ν → ν) (h : R s t) :
    Agree R (commit m f (n, s)) (commit m' f (n, t)) := by
  obtain ⟨hcode, hstate⟩ := hm s t h
  rw [Call.commit, Call.commit, ← hcode]
  split
  · exact ⟨rfl, rfl, hstate⟩
  · exact ⟨rfl, rfl, hstate⟩

/-- The second part starts from the object that the first part left in both runs. -/
theorem Agree.andThen {m k : Call (ν × σ)} {m' k' : Call (ν × τ)}
    (hm : Agree R (m (n, s)) (m' (n, t)))
    (hk : ∀ n1 s1 t1, m (n, s) = (0, (n1, s1)) → R s1 t1 → Agree R (k (n1, s1)) (k' (n1, t1))) :
    Agree R (m.andThen k (n, s)) (m'.andThen k' (n, t)) := by
  rcases hrun : m (n, s) with ⟨e, n1, s1⟩
  rcases hrun' : m' (n, t) with ⟨e', n1', t1⟩
  rw [hrun, hrun'] at hm
  obtain ⟨rfl, rfl, hstate⟩ := hm
  rw [Call.andThen, Call.andThen, hrun, hrun']
  dsimp only
  split
  · next hz => exact hk n1 s1 t1 (hrun.trans (by rw [hz])) hstate
  · exact ⟨rfl, rfl, hstate⟩

end Netd.Call
