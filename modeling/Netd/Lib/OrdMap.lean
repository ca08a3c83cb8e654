import Mathlib.Order.Lattice
import Mathlib.Data.List.Nodup

/-!
# Ordered maps

The model of `std::map`: a list of bindings whose keys strictly increase, so that iteration is in
key order and a key has at most one binding. `OrdSet` is the map to `Unit`, the model of
`std::set`.
-/

namespace Netd

open List Prod Option

/-- A map whose bindings are kept in strictly increasing key order. -/
structure OrdMap (κ β : Type*) [LinearOrder κ] where
  entries : List (κ × β)
  sorted : entries.Pairwise fun a b => a.1 < b.1

namespace OrdMap

variable {κ β : Type*} [LinearOrder κ]

instance [DecidableEq β] : DecidableEq (OrdMap κ β) := fun a b =>
  decidable_of_iff (a.entries = b.entries) (by cases a; cases b; simp)

theorem ext' {a b : OrdMap κ β} (h : a.entries = b.entries) : a = b := by
  cases a
  cases h
  rfl

def empty : OrdMap κ β := ⟨[], .nil⟩

def keys (m : OrdMap κ β) : List κ := m.entries.map Prod.fst

/-- The value bound to a key. -/
def find? (m : OrdMap κ β) (k : κ) : Option β := (m.entries.find? fun e => e.1 = k).map Prod.snd

/-- Bind a key, replacing an older binding. -/
def insertEntry (k : κ) (v : β) : List (κ × β) → List (κ × β)
  | [] => [(k, v)]
  | e :: es =>
    if k < e.1 then (k, v) :: e :: es
    else if k = e.1 then (k, v) :: es
    else e :: insertEntry k v es

variable {k x : κ} {m : OrdMap κ β} {v : β}

theorem mem_insertEntry {x : κ × β} :
    ∀ {es : List (κ × β)}, x ∈ insertEntry k v es → x = (k, v) ∨ x ∈ es
  | [], h => by simpa [insertEntry] using h
  | e :: es, h => by
    unfold insertEntry at h
    split at h
    · simpa using h
    split at h
    · cases mem_cons.mp h with
      | inl hx => exact .inl hx
      | inr hx => exact .inr (mem_cons_of_mem _ hx)
    cases mem_cons.mp h with
    | inl hx => exact .inr (hx ▸ mem_cons_self ..)
    | inr hx =>
      cases mem_insertEntry hx with
      | inl hk => exact .inl hk
      | inr hm => exact .inr (mem_cons_of_mem _ hm)

theorem insertEntry_sorted (k : κ) (v : β) :
    ∀ {es : List (κ × β)}, es.Pairwise (fun a b => a.1 < b.1) →
      (insertEntry k v es).Pairwise fun a b => a.1 < b.1
  | [], _ => by simp [insertEntry]
  | e :: es, h => by
    obtain ⟨he, hes⟩ := pairwise_cons.mp h
    unfold insertEntry
    split
    · rename_i hlt
      refine pairwise_cons.mpr ⟨fun x hx => ?_, h⟩
      cases mem_cons.mp hx with
      | inl hxe => exact hxe ▸ hlt
      | inr hxs => exact hlt.trans (he x hxs)
    · rename_i hnlt
      split
      · next heq => exact pairwise_cons.mpr ⟨fun x hx => heq ▸ he x hx, hes⟩
      rename_i hne
      have hgt : e.1 < k := lt_of_le_of_ne (not_lt.mp hnlt) (Ne.symm hne)
      refine pairwise_cons.mpr ⟨fun x hx => ?_, insertEntry_sorted k v hes⟩
      cases mem_insertEntry hx with
      | inl hxk => exact hxk ▸ hgt
      | inr hxs => exact he x hxs

def insert (m : OrdMap κ β) (k : κ) (v : β) : OrdMap κ β :=
  ⟨insertEntry k v m.entries, insertEntry_sorted k v m.sorted⟩

def erase (m : OrdMap κ β) (k : κ) : OrdMap κ β :=
  ⟨m.entries.filter fun e => e.1 ≠ k, m.sorted.filter _⟩

/-- Keep the bindings that satisfy a test. -/
def filter (m : OrdMap κ β) (p : κ → β → Bool) : OrdMap κ β :=
  ⟨m.entries.filter fun e => p e.1 e.2, m.sorted.filter _⟩

/-! ## Lookup -/

@[simp] theorem find?_empty (k : κ) : (empty : OrdMap κ β).find? k = none := rfl

@[simp] theorem entries_empty : (empty : OrdMap κ β).entries = [] := rfl

theorem keys_nodup (m : OrdMap κ β) : m.keys.Nodup := by
  unfold keys
  rw [nodup_iff_pairwise_ne, pairwise_map]
  exact m.sorted.imp fun h => ne_of_lt h

theorem eq_of_mem_of_mem {w : β} (hv : (k, v) ∈ m.entries) (hw : (k, w) ∈ m.entries) : v = w :=
  congrArg snd (inj_on_of_nodup_map m.keys_nodup hv hw rfl)

theorem find?_eq_some : m.find? k = some v ↔ (k, v) ∈ m.entries := by
  unfold find?
  constructor
  · intro h
    obtain ⟨e, he, hv⟩ := map_eq_some_iff.mp h
    have hk := List.find?_some he
    simp only [decide_eq_true_eq] at hk
    have hm := mem_of_find?_eq_some he
    rwa [← hk, ← hv]
  · intro h
    cases hf : m.entries.find? (fun e => decide (e.1 = k)) with
    | none =>
      rw [List.find?_eq_none] at hf
      exact absurd (hf _ h) (by simp)
    | some e =>
      have hk := List.find?_some hf
      simp only [decide_eq_true_eq] at hk
      have hm := mem_of_find?_eq_some hf
      have hv : e.2 = v := eq_of_mem_of_mem (hk ▸ hm) h
      simp [hv]

theorem find?_eq_none : m.find? k = none ↔ ∀ v, (k, v) ∉ m.entries := by
  constructor
  · intro h v hv
    rw [find?_eq_some.mpr hv] at h
    cases h
  · intro h
    cases hf : m.find? k with
    | none => rfl
    | some v => exact absurd (find?_eq_some.mp hf) (h v)

theorem mem_keys : k ∈ m.keys ↔ ∃ v, m.find? k = some v := by
  constructor
  · intro h
    obtain ⟨e, he, hk⟩ := mem_map.mp h
    exact ⟨e.2, find?_eq_some.mpr (hk ▸ he)⟩
  · rintro ⟨v, hv⟩
    exact mem_map.mpr ⟨(k, v), find?_eq_some.mp hv, rfl⟩

/-! ## Accounting -/

theorem mem_erase {e : κ × β} : e ∈ (m.erase k).entries ↔ e ∈ m.entries ∧ e.1 ≠ k := by
  simp [erase]

theorem filter_ne_eq_self :
    ∀ {es : List (κ × β)}, (∀ e ∈ es, e.1 ≠ k) → (es.filter fun e => e.1 ≠ k) = es := by
  intro es h
  rw [filter_eq_self]
  intro e he
  simpa using h e he

theorem perm_erase (h : m.find? k = some v) : m.entries.Perm ((k, v) :: (m.erase k).entries) := by
  have hmem := find?_eq_some.mp h
  obtain ⟨as, bs, hsplit⟩ := append_of_mem hmem
  have hsort := m.sorted
  rw [hsplit, pairwise_append, pairwise_cons] at hsort
  obtain ⟨_, ⟨hb, _⟩, ha⟩ := hsort
  have has : (as.filter fun e => e.1 ≠ k) = as :=
    filter_ne_eq_self fun e he => ne_of_lt (ha e he (k, v) (mem_cons_self ..))
  have hbs : (bs.filter fun e => e.1 ≠ k) = bs := filter_ne_eq_self fun e he => ne_of_gt (hb e he)
  have herase : (m.erase k).entries = as ++ bs := by
    simp only [erase, hsplit, filter_append, has, filter_cons, hbs]
    simp
  rw [herase, hsplit]
  exact perm_middle

theorem insertEntry_perm (k : κ) (v : β) :
    ∀ {es : List (κ × β)}, es.Pairwise (fun a b => a.1 < b.1) →
      (insertEntry k v es).Perm ((k, v) :: es.filter fun e => e.1 ≠ k)
  | [], _ => by simp [insertEntry]
  | e :: es, h => by
    obtain ⟨he, hes⟩ := pairwise_cons.mp h
    unfold insertEntry
    split
    · rename_i hlt
      rw [filter_ne_eq_self]
      intro x hx
      cases mem_cons.mp hx with
      | inl hxe => exact hxe ▸ ne_of_gt hlt
      | inr hxs => exact ne_of_gt (hlt.trans (he x hxs))
    · split
      · rename_i heq
        have hrest : (es.filter fun x => x.1 ≠ k) = es :=
          filter_ne_eq_self fun x hx => heq ▸ ne_of_gt (he x hx)
        simp only [filter_cons, ← heq, ne_eq, not_true_eq_false, decide_false,
          Bool.false_eq_true, if_false]
        rw [hrest]
      · rename_i hne
        have hkeep : decide (e.1 ≠ k) = true := by simpa using Ne.symm hne
        rw [filter_cons, if_pos hkeep]
        exact ((insertEntry_perm k v hes).cons e).trans (List.Perm.swap ..)

theorem perm_insert (m : OrdMap κ β) (k : κ) (v : β) :
    (m.insert k v).entries.Perm ((k, v) :: (m.erase k).entries) :=
  insertEntry_perm k v m.sorted

theorem mem_insert {e : κ × β} :
    e ∈ (m.insert k v).entries ↔ e = (k, v) ∨ (e ∈ m.entries ∧ e.1 ≠ k) := by
  rw [(m.perm_insert k v).mem_iff, mem_cons, mem_erase]

theorem find?_insert (m : OrdMap κ β) (k : κ) (v : β) (k' : κ) :
    (m.insert k v).find? k' = if k' = k then some v else m.find? k' := by
  split
  · next heq => exact find?_eq_some.mpr (mem_insert.mpr (.inl (by rw [heq])))
  rename_i hne
  cases hf : m.find? k' with
  | some w =>
    exact find?_eq_some.mpr (mem_insert.mpr (.inr ⟨find?_eq_some.mp hf, hne⟩))
  | none =>
    rw [find?_eq_none] at hf ⊢
    intro w hw
    cases mem_insert.mp hw with
    | inl heq => exact hne (congrArg fst heq)
    | inr hm => exact hf w hm.1

@[simp] theorem find?_insert_self (m : OrdMap κ β) (k : κ) (v : β) :
    (m.insert k v).find? k = some v := by
  rw [find?_insert, if_pos rfl]

theorem find?_erase (m : OrdMap κ β) (k k' : κ) :
    (m.erase k).find? k' = if k' = k then none else m.find? k' := by
  split
  · rename_i heq
    rw [find?_eq_none]
    intro v hv
    exact (mem_erase.mp hv).2 heq
  · rename_i hne
    cases hf : m.find? k' with
    | some w => exact find?_eq_some.mpr (mem_erase.mpr ⟨find?_eq_some.mp hf, hne⟩)
    | none =>
      rw [find?_eq_none] at hf ⊢
      exact fun w hw => hf w (mem_erase.mp hw).1

theorem forall_insert {P : κ → β → Prop} (h : ∀ k v, m.find? k = some v → P k v) (hv : P k v) :
    ∀ k' v', (m.insert k v).find? k' = some v' → P k' v' := by
  intro k' v' hfind
  rw [find?_insert] at hfind
  split at hfind
  · next heq =>
    cases hfind
    exact heq ▸ hv
  · exact h k' v' hfind

theorem find?_of_erase {k' : κ} (h : (m.erase k).find? k' = some v) :
    k' ≠ k ∧ m.find? k' = some v := by
  rw [find?_erase] at h
  split at h
  · cases h
  · next hne => exact ⟨hne, h⟩

theorem erase_of_find?_none (h : m.find? k = none) : m.erase k = m := by
  apply ext'
  refine filter_ne_eq_self fun e he hk => ?_
  exact find?_eq_none.mp h e.2 (hk ▸ he)

theorem erase_insert (m : OrdMap κ β) (k : κ) (v : β) : (m.insert k v).erase k = m.erase k := by
  apply ext'
  have hperm : ((m.insert k v).erase k).entries.Perm (m.erase k).entries :=
    ((perm_erase (find?_insert_self m k v)).symm.trans (m.perm_insert k v)).cons_inv
  refine hperm.eq_of_pairwise ?_ ((m.insert k v).erase k).sorted (m.erase k).sorted
  intro a b _ _ hab hba
  exact absurd (hab.trans hba) (lt_irrefl _)

/-! ## Keys -/

def contains (m : OrdMap κ β) (k : κ) : Bool := (m.find? k).isSome

theorem contains_iff : m.contains k = true ↔ k ∈ m.keys := by
  unfold contains
  rw [mem_keys, isSome_iff_exists]

theorem contains_eq_false : m.contains k = false ↔ k ∉ m.keys := by
  rw [← contains_iff, Bool.not_eq_true]

theorem keys_insert_perm (v : β) (h : k ∉ m.keys) : (m.insert k v).keys.Perm (k :: m.keys) := by
  have hnone : m.find? k = none := by
    rw [mem_keys] at h
    exact eq_none_iff_forall_not_mem.mpr fun w hw => h ⟨w, hw⟩
  have hp := (m.perm_insert k v).map fst
  rwa [erase_of_find?_none hnone] at hp

theorem keys_erase_perm (h : k ∈ m.keys) : m.keys.Perm (k :: (m.erase k).keys) := by
  obtain ⟨v, hv⟩ := mem_keys.mp h
  exact (perm_erase hv).map fst

theorem mem_keys_insert : x ∈ (m.insert k v).keys ↔ x = k ∨ x ∈ m.keys := by
  rw [mem_keys, mem_keys]
  simp only [find?_insert]
  split
  · next heq => simp [heq]
  · next hne => simp [hne]

theorem mem_keys_insert_of_mem (hk : k ∈ m.keys) : x ∈ (m.insert k v).keys ↔ x ∈ m.keys := by
  rw [mem_keys_insert]
  constructor
  · rintro (rfl | hx)
    · exact hk
    · exact hx
  · exact .inr

theorem mem_keys_erase : x ∈ (m.erase k).keys ↔ x ∈ m.keys ∧ x ≠ k := by
  rw [mem_keys, mem_keys]
  simp only [find?_erase]
  split
  · next heq => simp [heq]
  · next hne => simp [hne]

end OrdMap

/-- A set kept in increasing order, the model of `std::set`. -/
abbrev OrdSet (κ : Type*) [LinearOrder κ] := OrdMap κ Unit

end Netd
