import Mathlib.Data.List.Basic

/-!
# Properties of traces

A trace is the list of the events of a run, the first one first.  `Trace.Each F` says of
every event how it stands to those before it, and `Trace.Preceded P Q` that right before
every event of one kind there is an event of another kind.  A run that appends its events
one by one keeps them when each appended event does.
-/

namespace Netd.Trace

variable {ε : Type*} {P Q : ε → Prop} {F : List ε → ε → Prop} {t : List ε} {e : ε}

/-- The last event of a trace meets `Q`. -/
def Ends (Q : ε → Prop) (t : List ε) : Prop := ∃ pre d, t = pre ++ [d] ∧ Q d

/-- Right before every event that meets `P` there is one that meets `Q`. -/
def Preceded (P Q : ε → Prop) (t : List ε) : Prop :=
  ∀ pre e post, t = pre ++ e :: post → P e → Ends Q pre

/-- Every event fits those before it. -/
def Each (F : List ε → ε → Prop) (t : List ε) : Prop := ∀ pre e post, t = pre ++ e :: post → F pre e

/-- Where an event of a longer trace stands: at the end, or in the trace before. -/
theorem snoc_eq_append_cons {pre post : List ε} {d : ε} (h : t ++ [e] = pre ++ d :: post) :
    (pre = t ∧ d = e) ∨ ∃ post', t = pre ++ d :: post' := by
  rcases List.eq_nil_or_concat post with rfl | ⟨post', x, rfl⟩
  · obtain ⟨rfl, heq⟩ := List.append_inj' h rfl
    cases heq
    exact .inl ⟨rfl, rfl⟩
  have h' : t ++ [e] = (pre ++ d :: post') ++ [x] := by simpa using h
  obtain ⟨rfl, -⟩ := List.append_inj' h' rfl
  exact .inr ⟨post', rfl⟩

theorem each_nil : Each F [] := by
  intro pre e post h
  simp at h

theorem Each.snoc (ht : Each F t) (he : F t e) : Each F (t ++ [e]) := by
  intro pre d post h
  rcases snoc_eq_append_cons h with ⟨rfl, rfl⟩ | ⟨post', rfl⟩
  · exact he
  · exact ht pre d post' rfl

theorem preceded_nil : Preceded P Q [] := by
  intro pre e post h
  simp at h

theorem ends_snoc (h : Q e) : Ends Q (t ++ [e]) := ⟨t, e, rfl, h⟩

theorem of_ends_snoc (h : Ends Q (t ++ [e])) : Q e := by
  obtain ⟨pre, d, heq, hd⟩ := h
  obtain ⟨-, hlast⟩ := List.append_inj' heq rfl
  cases hlast
  exact hd

theorem Preceded.snoc (ht : Preceded P Q t) (he : P e → Ends Q t) : Preceded P Q (t ++ [e]) := by
  intro pre d post h hd
  rcases snoc_eq_append_cons h with ⟨rfl, rfl⟩ | ⟨post', rfl⟩
  · exact he hd
  · exact ht pre d post' rfl hd

end Netd.Trace
