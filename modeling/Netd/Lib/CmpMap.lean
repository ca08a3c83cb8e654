import Mathlib.Order.Lattice
import Mathlib.Data.List.Pairwise

/-!
# Maps with a comparator

The model of `std::map<K, V, Compare>` for a comparator that need not tell all keys apart: a list
of bindings whose keys strictly increase. `assign` is `m[k] = v`. When the map has a key
equivalent to `k`, the stored key stays and only the value changes. The map to `Unit` is the
model of `std::set<K, Compare>`.
-/

namespace Netd

open List IsTrans

variable {κ β : Type*}

/-- Neither key is below the other. -/
def Equivalent (lt : κ → κ → Prop) (a b : κ) : Prop := ¬ lt a b ∧ ¬ lt b a

instance (lt : κ → κ → Prop) [DecidableRel lt] (a b : κ) : Decidable (Equivalent lt a b) :=
  inferInstanceAs (Decidable (_ ∧ _))

/-- A map whose keys strictly increase under a comparator. -/
structure CmpMap (κ β : Type*) (lt : κ → κ → Prop) where
  entries : List (κ × β)
  sorted : entries.Pairwise fun a b => lt a.1 b.1

variable {lt : κ → κ → Prop}

theorem Equivalent.symm {a b : κ} (h : Equivalent lt a b) : Equivalent lt b a := ⟨h.2, h.1⟩

theorem Equivalent.trans [IsStrictWeakOrder κ lt] {a b c : κ} (hab : Equivalent lt a b)
    (hbc : Equivalent lt b c) : Equivalent lt a c :=
  IsStrictWeakOrder.incomp_trans a b c hab hbc

theorem Equivalent.refl [IsStrictWeakOrder κ lt] (a : κ) : Equivalent lt a a := ⟨irrefl a, irrefl a⟩

theorem lt_or_not_gt_and_iff {α : Type*} [LinearOrder α] {a b : α} {P : Prop} :
    a < b ∨ (¬ b < a ∧ P) ↔ a < b ∨ (a = b ∧ P) := by
  constructor
  · rintro (hlt | ⟨hn, hP⟩)
    · exact .inl hlt
    · rcases lt_or_eq_of_le (not_lt.mp hn) with hlt | heq
      · exact .inl hlt
      · exact .inr ⟨heq, hP⟩
  · rintro (hlt | ⟨heq, hP⟩)
    · exact .inl hlt
    · exact .inr ⟨not_lt.mpr (le_of_eq heq), hP⟩

theorem isStrictWeakOrder_of_key {α : Type*} [LinearOrder α] (key : κ → α)
    (h : ∀ a b, lt a b ↔ key a < key b) : IsStrictWeakOrder κ lt where
  irrefl a := by
    rw [h]
    exact lt_irrefl _
  trans a b c hab hbc := by
    rw [h] at *
    exact lt_trans hab hbc
  incomp_trans a b c hab hbc := by
    simp only [h, not_lt] at *
    exact ⟨le_trans hbc.1 hab.1, le_trans hab.2 hbc.2⟩

theorem equivalent_iff_key {α : Type*} [LinearOrder α] {key : κ → α}
    (h : ∀ a b, lt a b ↔ key a < key b) {a b : κ} : Equivalent lt a b ↔ key a = key b := by
  rw [Equivalent, h, h, not_lt, not_lt]
  exact ⟨fun hle => le_antisymm hle.2 hle.1, fun heq => ⟨heq.ge, heq.le⟩⟩

namespace CmpMap

variable {lt : κ → κ → Prop}

instance [DecidableEq κ] [DecidableEq β] : DecidableEq (CmpMap κ β lt) := fun a b =>
  decidable_of_iff (a.entries = b.entries) (by cases a; cases b; simp)

def empty : CmpMap κ β lt := ⟨[], .nil⟩

@[simp] theorem entries_empty : (empty : CmpMap κ β lt).entries = [] := rfl

/-- Keep the bindings that satisfy a test: a loop that erases the others. -/
def filter (m : CmpMap κ β lt) (p : κ → β → Bool) : CmpMap κ β lt :=
  ⟨m.entries.filter fun e => p e.1 e.2, m.sorted.filter _⟩

variable {m : CmpMap κ β lt} {k : κ} {v : β} {e x : κ × β} {es : List (κ × β)}

theorem mem_filter {p : κ → β → Bool} :
    e ∈ (m.filter p).entries ↔ e ∈ m.entries ∧ p e.1 e.2 = true :=
  List.mem_filter

theorem eq_of_equivalent {a b : κ × β} (ha : a ∈ m.entries) (hb : b ∈ m.entries)
    (h : Equivalent lt a.1 b.1) : a = b := by
  by_contra hne
  have hsymm : Std.Symm fun x y : κ × β => lt x.1 y.1 ∨ lt y.1 x.1 := ⟨fun _ _ => Or.symm⟩
  have hpair : m.entries.Pairwise fun x y => lt x.1 y.1 ∨ lt y.1 x.1 := m.sorted.imp .inl
  rcases hpair.forall ha hb hne with hlt | hlt
  · exact h.1 hlt
  · exact h.2 hlt

theorem ext_mem [IsStrictWeakOrder κ lt] {a b : CmpMap κ β lt}
    (h : ∀ e, e ∈ a.entries ↔ e ∈ b.entries) : a = b := by
  have hnodup : ∀ m : CmpMap κ β lt, m.entries.Nodup := by
    intro m
    refine List.Pairwise.imp ?_ m.sorted
    rintro x y hlt rfl
    exact irrefl _ hlt
  have hperm := (perm_ext_iff_of_nodup (hnodup a) (hnodup b)).mpr h
  have heq : a.entries = b.entries := by
    refine hperm.eq_of_pairwise ?_ a.sorted b.sorted
    intro x y _ _ hxy hyx
    exact absurd (trans _ _ _ hxy hyx) (irrefl _)
  cases a
  cases heq
  rfl

variable [DecidableRel lt]

/-- The stored key and its value. -/
def find? (m : CmpMap κ β lt) (k : κ) : Option (κ × β) :=
  m.entries.find? fun e => Equivalent lt e.1 k

@[simp] theorem find?_empty (k : κ) : (empty : CmpMap κ β lt).find? k = none := rfl

theorem find?_eq_none : m.find? k = none ↔ ∀ e ∈ m.entries, ¬ Equivalent lt e.1 k := by
  simp [find?]

/-- The key under which a value for `k` is stored. -/
def storedKey (m : CmpMap κ β lt) (k : κ) : κ := ((m.find? k).map Prod.fst).getD k

theorem storedKey_of_find? (h : m.find? k = some e) : m.storedKey k = e.1 := by
  simp [storedKey, h]

theorem storedKey_of_none (h : m.find? k = none) : m.storedKey k = k := by
  simp [storedKey, h]

/-- Bind a key. A stored key that is equivalent to it stays. -/
def assignEntry (lt : κ → κ → Prop) [DecidableRel lt] (k : κ) (v : β) : List (κ × β) → List (κ × β)
  | [] => [(k, v)]
  | e :: es =>
    if lt k e.1 then (k, v) :: e :: es
    else if lt e.1 k then e :: assignEntry lt k v es
    else (e.1, v) :: es

theorem key_of_mem_assignEntry (h : x ∈ assignEntry lt k v es) : x.1 = k ∨ ∃ e ∈ es, e.1 = x.1 := by
  induction es with
  | nil => simp_all [assignEntry]
  | cons e es ih =>
    simp only [assignEntry] at h
    split at h
    · rcases mem_cons.mp h with rfl | hx
      · exact .inl rfl
      · exact .inr ⟨x, hx, rfl⟩
    split at h
    · rcases mem_cons.mp h with rfl | hx
      · exact .inr ⟨x, mem_cons_self, rfl⟩
      rcases ih hx with hk | ⟨y, hy, hyx⟩
      · exact .inl hk
      · exact .inr ⟨y, mem_cons_of_mem _ hy, hyx⟩
    · rcases mem_cons.mp h with rfl | hx
      · exact .inr ⟨e, mem_cons_self, rfl⟩
      · exact .inr ⟨x, mem_cons_of_mem _ hx, rfl⟩

variable [IsStrictWeakOrder κ lt]

theorem assignEntry_sorted (k : κ) (v : β) (h : es.Pairwise fun a b => lt a.1 b.1) :
    (assignEntry lt k v es).Pairwise fun a b => lt a.1 b.1 := by
  induction es with
  | nil => simp [assignEntry]
  | cons e es ih =>
    obtain ⟨he, hes⟩ := pairwise_cons.mp h
    simp only [assignEntry]
    split
    · rename_i hlt
      refine pairwise_cons.mpr ⟨fun x hx => ?_, h⟩
      rcases mem_cons.mp hx with rfl | hx
      · exact hlt
      · exact trans _ _ _ hlt (he x hx)
    · split
      · rename_i hgt
        refine pairwise_cons.mpr ⟨fun x hx => ?_, ih hes⟩
        rcases key_of_mem_assignEntry hx with hk | ⟨y, hy, hyx⟩
        · rw [hk]
          exact hgt
        · rw [← hyx]
          exact he y hy
      · exact pairwise_cons.mpr ⟨he, hes⟩

def assign (m : CmpMap κ β lt) (k : κ) (v : β) : CmpMap κ β lt :=
  ⟨assignEntry lt k v m.entries, assignEntry_sorted k v m.sorted⟩

/-! ## Reading -/

theorem find?_eq_some : m.find? k = some e ↔ e ∈ m.entries ∧ Equivalent lt e.1 k := by
  constructor
  · intro h
    have hk := List.find?_some h
    exact ⟨mem_of_find?_eq_some h, of_decide_eq_true hk⟩
  · rintro ⟨he, hk⟩
    cases hf : m.find? k with
    | none => exact absurd (decide_eq_true hk) (List.find?_eq_none.mp hf e he)
    | some d =>
      have hd := List.find?_some hf
      rw [decide_eq_true_eq] at hd
      rw [eq_of_equivalent (mem_of_find?_eq_some hf) he (hd.trans hk.symm)]

/-! ## Writing -/

theorem mem_assignEntry (h : es.Pairwise fun a b => lt a.1 b.1) :
    x ∈ assignEntry lt k v es ↔ (x ∈ es ∧ ¬ Equivalent lt x.1 k) ∨
      x = (((es.find? fun e => Equivalent lt e.1 k).map Prod.fst).getD k, v) := by
  induction es with
  | nil => simp [assignEntry]
  | cons e es ih =>
    obtain ⟨he, hes⟩ := pairwise_cons.mp h
    simp only [assignEntry]
    split
    · rename_i hlt
      -- every stored key is above `k`
      have habove : ∀ y ∈ e :: es, ¬ Equivalent lt y.1 k := by
        intro y hy hk
        rcases mem_cons.mp hy with rfl | hy
        · exact hk.2 hlt
        · exact hk.2 (trans _ _ _ hlt (he y hy))
      have hnone : (e :: es).find? (fun y => Equivalent lt y.1 k) = none := by
        simpa using habove
      rw [hnone, mem_cons, or_comm]
      exact or_congr ⟨fun hx => ⟨hx, habove x hx⟩, And.left⟩ Iff.rfl
    · rename_i hnlt
      split
      · rename_i hgt
        have hne : ¬ Equivalent lt e.1 k := fun hk => hk.1 hgt
        rw [mem_cons, ih hes, List.find?_cons_of_neg (by simpa using hne)]
        constructor
        · rintro (rfl | ⟨hx, hk⟩ | hx)
          · exact .inl ⟨mem_cons_self, hne⟩
          · exact .inl ⟨mem_cons_of_mem _ hx, hk⟩
          · exact .inr hx
        · rintro (⟨hx, hk⟩ | hx)
          · rcases mem_cons.mp hx with rfl | hx
            · exact .inl rfl
            · exact .inr (.inl ⟨hx, hk⟩)
          · exact .inr (.inr hx)
      · rename_i hngt
        have hek : Equivalent lt e.1 k := ⟨hngt, hnlt⟩
        rw [mem_cons, List.find?_cons_of_pos (by simpa using hek), or_comm]
        refine or_congr ⟨fun hx => ?_, fun hx => ?_⟩ Iff.rfl
        · refine ⟨mem_cons_of_mem _ hx, fun hk => ?_⟩
          exact (hek.trans hk.symm).1 (he x hx)
        · rcases mem_cons.mp hx.1 with rfl | hx'
          · exact absurd hek hx.2
          · exact hx'

theorem mem_assign :
    x ∈ (m.assign k v).entries ↔ (x ∈ m.entries ∧ ¬ Equivalent lt x.1 k) ∨ x = (m.storedKey k, v) :=
  mem_assignEntry m.sorted

theorem storedKey_equivalent (m : CmpMap κ β lt) (k : κ) : Equivalent lt (m.storedKey k) k := by
  cases h : m.find? k with
  | none =>
    rw [storedKey_of_none h]
    exact .refl k
  | some e =>
    rw [storedKey_of_find? h]
    exact (find?_eq_some.mp h).2

theorem find?_assign_self (m : CmpMap κ β lt) (k : κ) (v : β) :
    (m.assign k v).find? k = some (m.storedKey k, v) :=
  find?_eq_some.mpr ⟨mem_assign.mpr (.inr rfl), m.storedKey_equivalent k⟩

theorem assign_eq_self : m.assign k v = m ↔ ∃ e, m.find? k = some e ∧ e.2 = v := by
  constructor
  · intro h
    have hfind := m.find?_assign_self k v
    rw [h] at hfind
    exact ⟨_, hfind, rfl⟩
  · rintro ⟨e, he, rfl⟩
    obtain ⟨hmem, hk⟩ := find?_eq_some.mp he
    apply ext_mem
    intro x
    rw [mem_assign, storedKey_of_find? he]
    constructor
    · rintro (hx | rfl)
      · exact hx.1
      · exact hmem
    · intro hx
      by_cases hxk : Equivalent lt x.1 k
      · exact .inr (eq_of_equivalent hx hmem (hxk.trans hk.symm))
      · exact .inl ⟨hx, hxk⟩

end CmpMap

end Netd
