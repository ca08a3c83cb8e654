import Mathlib.Data.Multiset.Filter

/-!
# Priority lists and edit scripts

A *priority list* is a list in which priorities never decrease. A new element goes behind all
elements of its priority.

An *edit script* is a sequence of additions and deletions. A deletion names an element, but is
carried out by a request that may leave fields open: it removes the first element selected. Two
rules say when a script nevertheless does what it says, as a change of the multiset of elements.

* `runEdits_dels`: no element present is selected by a request for another one.
* `runEdits_swap`: old elements are deleted after new ones have been added, and each request found
  its own element *before* the additions.
-/

namespace Netd

open List Option

structure PrioList (α : Type*) (prio : α → Nat) where
  /-- The elements, lowest priority first. -/
  toList : List α
  sorted : toList.Pairwise fun a b => prio a ≤ prio b

namespace PrioList

variable {α : Type*} {prio : α → Nat}

/-- Put an element behind all elements of its priority. -/
def insertList (prio : α → Nat) (a : α) : List α → List α
  | [] => [a]
  | b :: bs => if prio b ≤ prio a then b :: insertList prio a bs else a :: b :: bs

theorem insertList_perm (a : α) : ∀ l, (insertList prio a l).Perm (a :: l)
  | [] => by simp [insertList]
  | b :: bs => by
    unfold insertList
    split
    · exact ((insertList_perm a bs).cons b).trans (List.Perm.swap ..)
    · exact List.Perm.refl _

theorem insertList_sorted (a : α) : ∀ {l : List α}, l.Pairwise (fun x y => prio x ≤ prio y) →
      (insertList prio a l).Pairwise fun x y => prio x ≤ prio y
  | [], _ => by simp [insertList]
  | b :: bs, h => by
    obtain ⟨hb, hbs⟩ := pairwise_cons.mp h
    unfold insertList
    split
    · rename_i hle
      refine pairwise_cons.mpr ⟨fun x hx => ?_, insertList_sorted a hbs⟩
      cases mem_cons.mp ((insertList_perm a bs).mem_iff.mp hx) with
      | inl hxa => exact hxa ▸ hle
      | inr hxb => exact hb x hxb
    · rename_i hlt
      refine pairwise_cons.mpr ⟨fun x hx => ?_, h⟩
      cases mem_cons.mp hx with
      | inl hxb => exact hxb ▸ Nat.le_of_not_le hlt
      | inr hxs => exact Nat.le_trans (Nat.le_of_not_le hlt) (hb x hxs)

/-- Add an element behind all elements of its priority. -/
def insert (l : PrioList α prio) (a : α) : PrioList α prio :=
  ⟨insertList prio a l.toList, insertList_sorted a l.sorted⟩

/-- Remove the first element that passes a test. -/
def eraseFirst (l : PrioList α prio) (q : α → Bool) : PrioList α prio :=
  ⟨l.toList.eraseP q, l.sorted.sublist eraseP_sublist⟩

/-- Keep the elements that pass a test. -/
def filter (l : PrioList α prio) (q : α → Bool) : PrioList α prio :=
  ⟨l.toList.filter q, l.sorted.filter q⟩

/-- The elements without their order. -/
def bag (l : PrioList α prio) : Multiset α := ↑l.toList

variable {l : PrioList α prio} {q : α → Bool} {a x : α}

theorem mem_bag : a ∈ l.bag ↔ a ∈ l.toList := Iff.rfl

@[simp] theorem bag_insert (l : PrioList α prio) (a : α) : (l.insert a).bag = a ::ₘ l.bag :=
  Multiset.coe_eq_coe.mpr (insertList_perm a l.toList)

theorem mem_insert : x ∈ (l.insert a).toList ↔ x = a ∨ x ∈ l.toList := by
  rw [← mem_bag, bag_insert, Multiset.mem_cons, mem_bag]

theorem mem_of_mem_eraseFirst (h : x ∈ (l.eraseFirst q).toList) : x ∈ l.toList :=
  mem_of_mem_eraseP h

/-! ## The first element that passes a test -/

theorem bag_eraseFirst (h : l.toList.find? q = some a) : l.bag = a ::ₘ (l.eraseFirst q).bag := by
  obtain ⟨hq, as, bs, hl, has⟩ := List.find?_eq_some_iff_append.mp h
  have herase : l.toList.eraseP q = as ++ bs := by
    rw [hl, eraseP_append_right _ (by simpa using has), eraseP_cons_of_pos hq]
  refine Multiset.coe_eq_coe.mpr ?_
  change l.toList.Perm (a :: l.toList.eraseP q)
  rw [herase, hl]
  exact perm_middle

theorem count_eraseFirst [DecidableEq α] (hx : q x = false) :
    (l.eraseFirst q).bag.count x = l.bag.count x := by
  cases hfind : l.toList.find? q with
  | none =>
    have hsame : (l.eraseFirst q).toList = l.toList :=
      eraseP_of_forall_not (List.find?_eq_none.mp hfind)
    rw [bag, bag, hsame]
  | some a =>
    rw [bag_eraseFirst hfind, Multiset.count_cons_of_ne]
    rintro rfl
    rw [List.find?_some hfind] at hx
    cases hx

theorem prio_le_of_find? {b : α} (h : l.toList.find? q = some a) (hb : b ∈ l.toList)
    (hq : q b = true) : prio a ≤ prio b := by
  obtain ⟨_, as, bs, hl, has⟩ := List.find?_eq_some_iff_append.mp h
  have hsort := l.sorted
  rw [hl, pairwise_append, pairwise_cons] at hsort
  rw [hl, mem_append, mem_cons] at hb
  rcases hb with hb | hb | hb
  · have hno := has b hb
    rw [hq] at hno
    cases hno
  · exact hb ▸ Nat.le_refl _
  · exact hsort.2.1.1 b hb

theorem find?_eq_of_unique {l : List α} (hex : l.any q = true)
    (huniq : ∀ x ∈ l, q x = true → x = a) : l.find? q = some a := by
  obtain ⟨x, hx, hq⟩ := any_eq_true.mp hex
  cases hf : l.find? q with
  | none => exact absurd hq (by simpa using List.find?_eq_none.mp hf x hx)
  | some b => rw [huniq b (mem_of_find?_eq_some hf) (List.find?_some hf)]

theorem find?_insert {d : α} (hq : ∀ x, q x = true → prio x = prio d)
    (h : l.toList.find? q = some d) : (l.insert a).toList.find? q = some d := by
  have main : ∀ {bs : List α}, bs.Pairwise (fun x y => prio x ≤ prio y) →
      bs.find? q = some d → (insertList prio a bs).find? q = some d := by
    intro bs
    induction bs with
    | nil => intro _ hf; simp at hf
    | cons b bs ih =>
      intro hs hf
      obtain ⟨hb, hbs⟩ := pairwise_cons.mp hs
      have hpd : prio b ≤ prio d := by
        cases mem_cons.mp (mem_of_find?_eq_some hf) with
        | inl hd => exact hd ▸ Nat.le_refl _
        | inr hd => exact hb d hd
      unfold insertList
      split
      · cases hqb : q b with
        | true => rwa [List.find?_cons_of_pos hqb] at hf ⊢
        | false =>
          have hnb : ¬ q b = true := by simp [hqb]
          rw [List.find?_cons_of_neg hnb] at hf ⊢
          exact ih hbs hf
      · rename_i hlt
        have hna : ¬ q a = true := by
          intro hqa
          have := hq a hqa
          omega
        rwa [List.find?_cons_of_neg hna]
  exact main l.sorted h

theorem find?_eraseFirst {p : α → Bool} (hdisj : ∀ x, q x = true → p x = false) :
    (l.eraseFirst q).toList.find? p = l.toList.find? p := by
  have main : ∀ bs : List α, (bs.eraseP q).find? p = bs.find? p := by
    intro bs
    induction bs with
    | nil => rfl
    | cons b bs ih =>
      cases hqb : q b with
      | true =>
        have hnb : ¬ p b = true := by simp [hdisj b hqb]
        rw [eraseP_cons_of_pos hqb, List.find?_cons_of_neg hnb]
      | false =>
        rw [eraseP_cons_of_neg (by simp [hqb]), List.find?_cons, List.find?_cons, ih]
  exact main l.toList

end PrioList

/-! ## Edit scripts -/

inductive Edit (α : Type*) where
  | add (a : α)
  | del (a : α)

namespace Edit

variable {α : Type*}

/-- An addition or a deletion. -/
def ofAdd (add : Bool) (a : α) : Edit α := if add then .add a else .del a

/-- What the additions of a script name. -/
def added : List (Edit α) → Multiset α
  | [] => 0
  | .add a :: es => a ::ₘ added es
  | .del _ :: es => added es

/-- What the deletions of a script name. -/
def deleted : List (Edit α) → Multiset α
  | [] => 0
  | .add _ :: es => deleted es
  | .del a :: es => a ::ₘ deleted es

theorem added_append (es fs : List (Edit α)) : added (es ++ fs) = added es + added fs := by
  induction es with
  | nil => exact (Multiset.zero_add _).symm
  | cons e es ih =>
    cases e with
    | add a => exact (congrArg (a ::ₘ ·) ih).trans (Multiset.cons_add ..).symm
    | del a => exact ih

theorem deleted_append (es fs : List (Edit α)) : deleted (es ++ fs) = deleted es + deleted fs := by
  induction es with
  | nil => exact (Multiset.zero_add _).symm
  | cons e es ih =>
    cases e with
    | add a => exact ih
    | del a => exact (congrArg (a ::ₘ ·) ih).trans (Multiset.cons_add ..).symm

section

variable (as : List α)

theorem added_map_add : added (as.map .add) = ↑as := by
  induction as with
  | nil => rfl
  | cons a as ih => exact congrArg (a ::ₘ ·) ih

theorem deleted_map_add : deleted (as.map .add) = 0 := by
  induction as with
  | nil => rfl
  | cons a as ih => exact ih

theorem added_map_del : added (as.map .del) = 0 := by
  induction as with
  | nil => rfl
  | cons a as ih => exact ih

theorem deleted_map_del : deleted (as.map .del) = ↑as := by
  induction as with
  | nil => rfl
  | cons a as ih => exact congrArg (a ::ₘ ·) ih

end

end Edit

section Scripts

variable {α : Type*} {prio : α → Nat} (req : α → α → Bool)

/-- Carry out one edit. `req a` selects what the request for deleting `a`
matches. -/
def Edit.run : Edit α → PrioList α prio → Option (PrioList α prio)
  | .add a, l => some (l.insert a)
  | .del a, l => if l.toList.any (req a) then some (l.eraseFirst (req a)) else none

/-- Carry out a script. -/
def runEdits : List (Edit α) → PrioList α prio → Option (PrioList α prio)
  | [], l => some l
  | e :: es, l => (e.run req l).bind (runEdits es)

variable {req} {l l' : PrioList α prio}

theorem runEdits_append {es fs : List (Edit α)} :
    runEdits req (es ++ fs) l = (runEdits req es l).bind (runEdits req fs) := by
  induction es generalizing l with
  | nil => rfl
  | cons e es ih =>
    simp only [cons_append, runEdits]
    cases e.run req l with
    | none => rfl
    | some l1 => exact ih

variable {as ds : List α}

theorem runEdits_adds (h : runEdits req (as.map .add) l = some l') : l'.bag = l.bag + ↑as := by
  induction as generalizing l with
  | nil =>
    simp only [map_nil, runEdits, some.injEq] at h
    simp [h]
  | cons a as ih =>
    have h' : runEdits req (as.map .add) (l.insert a) = some l' := h
    rw [ih h', PrioList.bag_insert, ← Multiset.cons_coe, Multiset.cons_add, Multiset.add_cons]

theorem find?_runEdits_adds {d : α} (hprio : ∀ x, req d x = true → prio x = prio d)
    (h : runEdits req (as.map .add) l = some l') (hf : l.toList.find? (req d) = some d) :
    l'.toList.find? (req d) = some d := by
  induction as generalizing l with
  | nil =>
    simp only [map_nil, runEdits, some.injEq] at h
    rwa [← h]
  | cons a as ih =>
    have h' : runEdits req (as.map .add) (l.insert a) = some l' := h
    exact ih h' (PrioList.find?_insert hprio hf)

theorem runEdits_del_cons {d : α} {es : List (Edit α)}
    (h : runEdits req (.del d :: es) l = some l') :
    l.toList.any (req d) = true ∧ runEdits req es (l.eraseFirst (req d)) = some l' := by
  simp only [runEdits, Edit.run] at h
  split at h
  · next hany => exact ⟨hany, h⟩
  · simp at h

/-- Deletions delete what they name, when their requests select nothing else. -/
theorem runEdits_dels (h : runEdits req (ds.map .del) l = some l')
    (huniq : ∀ d ∈ ds, ∀ x ∈ l.toList, req d x = true → x = d) : l.bag = l'.bag + ↑ds := by
  induction ds generalizing l with
  | nil =>
    simp only [map_nil, runEdits, some.injEq] at h
    simp [h]
  | cons d ds ih =>
    obtain ⟨hany, hrest⟩ := runEdits_del_cons h
    have hfind := PrioList.find?_eq_of_unique hany (huniq d (mem_cons_self ..))
    have hih := ih hrest fun e he x hx =>
      huniq e (mem_cons_of_mem _ he) x (PrioList.mem_of_mem_eraseFirst hx)
    rw [PrioList.bag_eraseFirst hfind, hih, ← Multiset.cons_coe, Multiset.add_cons]

/-- Deletions can be carried out when what they name is there and their requests select nothing
else. -/
theorem exists_runEdits_dels (hreq : ∀ d ∈ ds, req d d = true) (hle : (ds : Multiset α) ≤ l.bag)
    (huniq : ∀ d ∈ ds, ∀ x ∈ l.toList, req d x = true → x = d) :
    ∃ l', runEdits req (ds.map .del) l = some l' := by
  induction ds generalizing l with
  | nil => exact ⟨l, rfl⟩
  | cons d ds ih =>
    rw [← Multiset.cons_coe] at hle
    have hmem : d ∈ l.toList :=
      PrioList.mem_bag.mp (Multiset.mem_of_le hle (Multiset.mem_cons_self d _))
    have hany : l.toList.any (req d) = true := any_eq_true.mpr ⟨d, hmem, hreq d mem_cons_self⟩
    have hfind := PrioList.find?_eq_of_unique hany (huniq d mem_cons_self)
    rw [PrioList.bag_eraseFirst hfind] at hle
    obtain ⟨l', hrun⟩ := ih (fun e he => hreq e (mem_cons_of_mem _ he))
      ((Multiset.cons_le_cons_iff d).mp hle) fun e he x hx =>
        huniq e (mem_cons_of_mem _ he) x (PrioList.mem_of_mem_eraseFirst hx)
    refine ⟨l', ?_⟩
    rw [map_cons, runEdits, Edit.run, if_pos hany]
    exact hrun

/-- Deletions of different priorities delete what they name, when each request finds its own element
first. -/
theorem runEdits_dels_first (h : runEdits req (ds.map .del) l = some l')
    (hprio : ∀ d x, req d x = true → prio x = prio d)
    (hdiff : ds.Pairwise fun a b => prio a ≠ prio b)
    (hfind : ∀ d ∈ ds, l.toList.find? (req d) = some d) : l.bag = l'.bag + ↑ds := by
  induction ds generalizing l with
  | nil =>
    simp only [map_nil, runEdits, some.injEq] at h
    simp [h]
  | cons d ds ih =>
    obtain ⟨_, hrest⟩ := runEdits_del_cons h
    obtain ⟨hd, hds⟩ := pairwise_cons.mp hdiff
    have hih := ih hrest hds fun e he => by
      rw [PrioList.find?_eraseFirst]
      · exact hfind e (mem_cons_of_mem _ he)
      · intro x hx
        by_contra hxe
        have h1 := hprio d x hx
        have h2 := hprio e x (by simpa using hxe)
        exact hd e he (h1.symm.trans h2)
    rw [PrioList.bag_eraseFirst (hfind d (mem_cons_self ..)), hih, ← Multiset.cons_coe,
      Multiset.add_cons]

/-- Add, then delete: the requests still find the old elements, since the new ones went behind. -/
theorem runEdits_swap (h : runEdits req (as.map .add ++ ds.map .del) l = some l')
    (hprio : ∀ d x, req d x = true → prio x = prio d)
    (hdiff : ds.Pairwise fun a b => prio a ≠ prio b)
    (hfind : ∀ d ∈ ds, l.toList.find? (req d) = some d) : l.bag + ↑as = l'.bag + ↑ds := by
  rw [runEdits_append] at h
  obtain ⟨l1, hadds, hdels⟩ := bind_eq_some_iff.mp h
  rw [← runEdits_adds hadds]
  exact runEdits_dels_first hdels hprio hdiff fun d hd =>
    find?_runEdits_adds (hprio d) hadds (hfind d hd)

end Scripts

end Netd
