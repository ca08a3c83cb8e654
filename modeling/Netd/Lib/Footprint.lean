import Mathlib.Algebra.BigOperators.Group.Multiset.Basic
import Netd.Lib.Call

/-!
# Footprints

A state *holds* items: `view s j` is the multiset held at place `j`. `Replaces view I own P Q m`
says that whenever a state holds `P` and a rest that has no item of the call's own, a successful
run of `m` leaves the same rest and `Q`: a triple with its frame rule built in. `I` is an invariant
that the call may use and keeps.

`Achieves` is the total form: the call also returns 0.
-/

namespace Netd

open List Call

variable {σ ι α β : Type*} {view : σ → ι → Multiset α} {I : σ → Prop} {bs : List β} {f : β → Call σ}
  {owns : β → α → Prop} {new old : β → Multiset α}

theorem mem_sum_map {f : β → Multiset α} {x : α} : x ∈ (bs.map f).sum ↔ ∃ b ∈ bs, x ∈ f b := by
  induction bs with
  | nil => simp
  | cons b bs ih =>
    rw [map_cons, sum_cons, Multiset.mem_add, ih]
    simp

/-- A successful run of `m` replaces `P` by `Q` beside any rest without items owned by the call. -/
structure Replaces (view : σ → ι → Multiset α) (I : σ → Prop) (own : α → Prop)
    (P Q : Multiset α) (m : Call σ) : Prop where
  spec : ∀ (R : ι → Multiset α) (s s' : σ), (∀ j, ∀ x ∈ R j, ¬ own x) → I s →
    (∀ j, view s j = R j + P) → m s = (0, s') → I s' ∧ ∀ j, view s' j = R j + Q

namespace Replaces

variable {own own' : α → Prop} {P Q S : Multiset α} {m k : Call σ}

theorem done : Replaces view I own P P done := by
  refine ⟨fun R s s' _ hI hv hm => ?_⟩
  cases done_ok.mp hm
  exact ⟨hI, hv⟩

theorem andThen (hm : Replaces view I own P Q m) (hk : Replaces view I own Q S k) :
    Replaces view I own P S (m.andThen k) := by
  refine ⟨fun R s s' hR hI hv h => ?_⟩
  obtain ⟨t, hmt, hkt⟩ := andThen_ok.mp h
  obtain ⟨hIt, hvt⟩ := hm.spec R s t hR hI hv hmt
  exact hk.spec R t s' hR hIt hvt hkt

theorem mono (h : Replaces view I own P Q m) (hown : ∀ x, own x → own' x) :
    Replaces view I own' P Q m :=
  ⟨fun R s s' hR => h.spec R s s' fun j x hx ho => hR j x hx (hown x ho)⟩

theorem frame (h : Replaces view I own P Q m) (hF : ∀ x ∈ S, ¬ own x) :
    Replaces view I own (P + S) (Q + S) m := by
  refine ⟨fun R s s' hR hI hv hm => ?_⟩
  have hR' : ∀ j, ∀ x ∈ R j + S, ¬ own x := by
    intro j x hx
    cases Multiset.mem_add.mp hx with
    | inl hr => exact hR j x hr
    | inr hs => exact hF x hs
  have hv' : ∀ j, view s j = (R j + S) + P := by
    intro j
    rw [hv j, add_assoc, add_comm P S]
  obtain ⟨hI', hview⟩ := h.spec (fun j => R j + S) s s' hR' hI hv' hm
  refine ⟨hI', fun j => ?_⟩
  rw [hview j, add_assoc, add_comm S Q]

theorem of_fact {φ : Prop} (hφ : ∀ s s', I s → m s = (0, s') → φ)
    (h : φ → Replaces view I own P Q m) : Replaces view I own P Q m := by
  refine ⟨fun R s s' hR hI hv hm => ?_⟩
  exact (h (hφ s s' hI hm)).spec R s s' hR hI hv hm

theorem of_keeps (h : ∀ V : ι → Multiset α, Call.Keeps (fun s => I s ∧ ∀ j, view s j = V j) m) :
    Replaces view I own P P m := by
  refine ⟨fun R s s' _ hI hv hm => ?_⟩
  have hkept := h (fun j => R j + P) s ⟨hI, hv⟩
  rwa [hm] at hkept

theorem and_keeps {J : σ → Prop} (h : Replaces view I own P Q m) (hJ : Call.Keeps J m) :
    Replaces view (fun s => I s ∧ J s) own P Q m := by
  refine ⟨fun R s s' hR hs hv hm => ?_⟩
  obtain ⟨hI, hview⟩ := h.spec R s s' hR hs.1 hv hm
  exact ⟨⟨hI, hJ.run hs.2 hm⟩, hview⟩

end Replaces

/-! ## Loops -/

/-- The rules of a triple with a footprint. -/
structure FrameRules (T : (α → Prop) → Multiset α → Multiset α → Call σ → Prop) : Prop where
  done : ∀ {own P}, T own P P Call.done
  andThen : ∀ {own P Q S m k}, T own P Q m → T own Q S k → T own P S (m.andThen k)
  mono : ∀ {own own' : α → Prop} {P Q m}, T own P Q m → (∀ x, own x → own' x) → T own' P Q m
  frame : ∀ {own : α → Prop} {P Q S m}, T own P Q m → (∀ x ∈ S, ¬ own x) → T own (P + S) (Q + S) m

/-- A loop replaces the sum of what its rounds replace. -/
theorem FrameRules.each {T : (α → Prop) → Multiset α → Multiset α → Call σ → Prop}
    (hT : FrameRules T) :
    ∀ {bs : List β}, bs.Nodup →
      (∀ b ∈ bs, T (owns b) (old b) (new b) (f b)) →
      (∀ b ∈ bs, ∀ c ∈ bs, b ≠ c → ∀ x, x ∈ old c ∨ x ∈ new c → ¬ owns b x) →
      T (fun x => ∃ b ∈ bs, owns b x) (bs.map old).sum (bs.map new).sum (each f bs)
  | [], _, _, _ => hT.done
  | b :: bs, hnd, hf, hsep => by
    obtain ⟨hb, hbs⟩ := nodup_cons.mp hnd
    have hne : ∀ c ∈ bs, b ≠ c := fun c hc he => hb (he ▸ hc)
    -- the first round leaves the other rounds' old items alone
    have hfirst : T (fun x => ∃ c ∈ b :: bs, owns c x)
        (old b + (bs.map old).sum) (new b + (bs.map old).sum) (f b) := by
      refine hT.mono (hT.frame (hf b mem_cons_self) fun x hx => ?_)
        fun x ho => ⟨b, mem_cons_self, ho⟩
      obtain ⟨c, hc, hxM⟩ := mem_sum_map.mp hx
      exact hsep b mem_cons_self c (mem_cons_of_mem _ hc) (hne c hc) x (.inl hxM)
    -- and the other rounds leave the first round's new items alone
    have hrest : T (fun x => ∃ c ∈ b :: bs, owns c x)
        (new b + (bs.map old).sum) (new b + (bs.map new).sum) (Call.each f bs) := by
      rw [add_comm (new b), add_comm (new b)]
      refine hT.mono (hT.frame (hT.each hbs (fun c hc => hf c (mem_cons_of_mem _ hc))
        fun c hc d hd => hsep c (mem_cons_of_mem _ hc) d (mem_cons_of_mem _ hd))
          fun x hx => ?_) fun x ⟨c, hc, ho⟩ => ⟨c, mem_cons_of_mem _ hc, ho⟩
      rintro ⟨c, hc, ho⟩
      exact hsep c (mem_cons_of_mem _ hc) b mem_cons_self (hne c hc).symm x (.inr hx) ho
    exact hT.andThen hfirst hrest

theorem Replaces.frameRules : FrameRules (Replaces view I) := ⟨done, andThen, mono, frame⟩

theorem Replaces.each (hnd : bs.Nodup)
    (hf : ∀ b ∈ bs, Replaces view I (owns b) (old b) (new b) (f b))
    (hsep : ∀ b ∈ bs, ∀ c ∈ bs, b ≠ c → ∀ x, x ∈ old c ∨ x ∈ new c → ¬ owns b x) :
    Replaces view I (fun x => ∃ b ∈ bs, owns b x) (bs.map old).sum (bs.map new).sum
      (each f bs) :=
  Replaces.frameRules.each hnd hf hsep

/-! ## Calls that return 0 -/

/-- The call replaces `P` by `Q`, and it returns 0. -/
structure Achieves (view : σ → ι → Multiset α) (I : σ → Prop) (own : α → Prop)
    (P Q : Multiset α) (m : Call σ) : Prop extends Replaces view I own P Q m where
  returns : ∀ (R : ι → Multiset α) (s : σ), (∀ j, ∀ x ∈ R j, ¬ own x) → I s →
    (∀ j, view s j = R j + P) → (m s).1 = 0

namespace Achieves

variable {own own' : α → Prop} {P Q S : Multiset α} {m k : Call σ}

theorem done : Achieves view I own P P done := ⟨.done, fun _ _ _ _ _ => rfl⟩

theorem andThen (hm : Achieves view I own P Q m) (hk : Achieves view I own Q S k) :
    Achieves view I own P S (m.andThen k) := by
  refine ⟨hm.toReplaces.andThen hk.toReplaces, fun R s hR hI hv => ?_⟩
  have hcode := hm.returns R s hR hI hv
  obtain ⟨hI', hv'⟩ := hm.spec R s (m s).2 hR hI hv (Prod.ext hcode rfl)
  rw [Call.andThen, if_pos hcode]
  exact hk.returns R _ hR hI' hv'

theorem mono (h : Achieves view I own P Q m) (hown : ∀ x, own x → own' x) :
    Achieves view I own' P Q m :=
  ⟨h.toReplaces.mono hown, fun R s hR => h.returns R s fun j x hx ho => hR j x hx (hown x ho)⟩

theorem frame (h : Achieves view I own P Q m) (hF : ∀ x ∈ S, ¬ own x) :
    Achieves view I own (P + S) (Q + S) m := by
  refine ⟨h.toReplaces.frame hF, fun R s hR hI hv => ?_⟩
  refine h.returns (fun j => R j + S) s (fun j x hx => ?_) hI fun j => ?_
  · cases Multiset.mem_add.mp hx with
    | inl hr => exact hR j x hr
    | inr hs => exact hF x hs
  · rw [hv j, add_assoc, add_comm P S]

theorem of_fact {φ : Prop} (hφ : ∀ s, I s → φ) (h : φ → Achieves view I own P Q m) :
    Achieves view I own P Q m :=
  ⟨⟨fun R s s' hR hI => (h (hφ s hI)).spec R s s' hR hI⟩,
    fun R s hR hI => (h (hφ s hI)).returns R s hR hI⟩

theorem frameRules : FrameRules (Achieves view I) := ⟨done, andThen, mono, frame⟩

theorem each {f : β → Call σ} {owns : β → α → Prop} {old new : β → Multiset α} {bs : List β}
    (hnd : bs.Nodup) (hf : ∀ b ∈ bs, Achieves view I (owns b) (old b) (new b) (f b))
    (hsep : ∀ b ∈ bs, ∀ c ∈ bs, b ≠ c → ∀ x, x ∈ old c ∨ x ∈ new c → ¬ owns b x) :
    Achieves view I (fun x => ∃ b ∈ bs, owns b x) (bs.map old).sum (bs.map new).sum
      (each f bs) :=
  frameRules.each hnd hf hsep

end Achieves

end Netd
