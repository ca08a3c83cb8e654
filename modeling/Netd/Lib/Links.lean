import Mathlib.Data.List.Nodup
import Mathlib.Data.List.Chain

/-!
# Linked lists in memory

A *ring* is a circular doubly linked list through a head node, read off two functions `next` and
`prev`. A node is linked in behind the head (`Ring.insert`) and unlinked by making its neighbours
point at each other (`Ring.remove`).

A *chain* is a singly linked list whose pointers are stored in *slots*: the one where the list
starts, or the one in a node. A program appends by writing to the last slot (`Chain.append`) and
removes a node by writing its link to the slot it was found in (`Chain.unlink`).
-/

namespace Netd.Links

open List Option

open Function (update update_of_ne update_self)

/-! ## Rings -/

section Ring

variable {A : Type*} {next prev next' prev' : A → A} {s e : A} {l l₁ l₂ : List A}

/-- Neighbours point at each other. -/
def Linked (next prev : A → A) (a b : A) : Prop := next a = b ∧ prev b = a

/-- The circular list with the head `s` and the other nodes `l`, in the order of `next`. -/
structure Ring (next prev : A → A) (s : A) (l : List A) : Prop where
  linked : (s :: l ++ [s]).IsChain (Linked next prev)
  nodup : (s :: l).Nodup

/-- Links are read at every node but the last one forward, and at every node but the first
one backward. -/
theorem isChain_linked_congr (h : l.IsChain (Linked next prev))
    (hnext : ∀ a ∈ l.dropLast, next' a = next a) (hprev : ∀ b ∈ l.tail, prev' b = prev b) :
    l.IsChain (Linked next' prev') := by
  induction l with
  | nil => exact .nil
  | cons a l ih =>
    cases l with
    | nil => exact .singleton a
    | cons b l =>
      obtain ⟨⟨hn, hp⟩, htail⟩ := isChain_cons_cons.mp h
      refine isChain_cons_cons.mpr ⟨⟨?_, ?_⟩, ih htail ?_ ?_⟩
      · rw [hnext a (by simp)]
        exact hn
      · rw [hprev b (by simp)]
        exact hp
      · intro x hx
        exact hnext x (by simp [hx])
      · intro x hx
        exact hprev x (by simpa using Or.inr hx)

theorem Ring.congr (h : Ring next prev s l) (hnext : ∀ a ∈ s :: l, next' a = next a)
    (hprev : ∀ a ∈ s :: l, prev' a = prev a) : Ring next' prev' s l := by
  refine ⟨isChain_linked_congr h.linked ?_ ?_, h.nodup⟩
  · intro a ha
    rw [dropLast_concat] at ha
    exact hnext a ha
  · intro b hb
    refine hprev b ?_
    simpa [or_comm] using hb

/-- The empty ring: the head points at itself. -/
theorem ring_nil (hnext : next s = s) (hprev : prev s = s) : Ring next prev s [] :=
  ⟨isChain_cons_cons.mpr ⟨⟨hnext, hprev⟩, .singleton s⟩, nodup_singleton s⟩

theorem ring_around (s : A) (l₁ l₂ : List A) :
    ∃ pre x z post, s :: l₁ = pre ++ [x] ∧ l₂ ++ [s] = z :: post := by
  obtain ⟨pre, x, hpre⟩ := eq_nil_or_concat (s :: l₁) |>.resolve_left (by simp)
  cases l₂ with
  | nil => exact ⟨pre, x, s, [], by simpa using hpre, rfl⟩
  | cons z l₂ => exact ⟨pre, x, z, l₂ ++ [s], by simpa using hpre, rfl⟩

/-- What the links of a node of a ring are. -/
theorem Ring.links (h : Ring next prev s (l₁ ++ e :: l₂)) {pre post : List A} {x z : A}
    (hpre : s :: l₁ = pre ++ [x]) (hpost : l₂ ++ [s] = z :: post) :
    prev e = x ∧ next e = z ∧ (pre ++ [x]).IsChain (Linked next prev) ∧
      (z :: post).IsChain (Linked next prev) := by
  have hchain := h.linked
  have hsplit : s :: (l₁ ++ e :: l₂) ++ [s] = (pre ++ [x]) ++ e :: (z :: post) := by
    rw [← hpre, ← hpost]
    simp
  rw [hsplit, isChain_append] at hchain
  obtain ⟨hleft, hright, hseam⟩ := hchain
  obtain ⟨hez, hrest⟩ := isChain_cons_cons.mp hright
  have hxe := hseam x (by simp) e (by simp)
  exact ⟨hxe.2, hez.1, hleft, hrest⟩

theorem Ring.next_head (h : Ring next prev s l) : next s = l.head?.getD s := by
  cases l with
  | nil => exact (isChain_cons_cons.mp h.linked).1.1
  | cons a l => exact (isChain_cons_cons.mp h.linked).1.1

theorem Ring.prev_head (h : Ring next prev s l) : prev s = l.getLast?.getD s := by
  rcases eq_nil_or_concat l with rfl | ⟨l, a, rfl⟩
  · exact (isChain_cons_cons.mp h.linked).1.2
  have hchain := h.linked
  have hsplit : s :: l.concat a ++ [s] = (s :: l ++ [a]) ++ [s] := by simp
  rw [hsplit, isChain_append] at hchain
  have hseam := hchain.2.2 a (List.getLast?_concat ..) s rfl
  simpa using hseam.2

theorem Ring.next_mem (h : Ring next prev s (l₁ ++ e :: l₂)) : next e = l₂.head?.getD s := by
  obtain ⟨pre, x, z, post, hpre, hpost⟩ := ring_around s l₁ l₂
  rw [(h.links hpre hpost).2.1]
  cases l₂ with
  | nil =>
    cases hpost
    rfl
  | cons a l₂ =>
    cases hpost
    rfl

theorem Ring.around_mem (h : Ring next prev s (l₁ ++ e :: l₂)) :
    prev e ∈ s :: l₁ ∧ next e ∈ l₂ ++ [s] := by
  obtain ⟨pre, x, z, post, hpre, hpost⟩ := ring_around s l₁ l₂
  obtain ⟨hx, hz, -, -⟩ := h.links hpre hpost
  rw [hx, hz, hpre, hpost]
  simp

variable [DecidableEq A]

theorem Ring.update_of_not_mem (h : Ring next prev s l) (he : e ∉ s :: l) (x y : A) :
    Ring (update next e x) (update prev e y) s l := by
  have hne : ∀ a ∈ s :: l, a ≠ e := by
    rintro a ha rfl
    exact he ha
  exact h.congr (fun a ha => update_of_ne (hne a ha) _ _)
    fun a ha => update_of_ne (hne a ha) _ _

/-- Unlink a node: its neighbours point at each other. -/
theorem Ring.remove (h : Ring next prev s (l₁ ++ e :: l₂)) :
    Ring (update next (prev e) (next e)) (update prev (next e) (prev e)) s (l₁ ++ l₂) := by
  obtain ⟨pre, x, z, post, hpre, hpost⟩ := ring_around s l₁ l₂
  obtain ⟨hx, hz, hleft, hright⟩ := h.links hpre hpost
  have hnodup : (s :: (l₁ ++ e :: l₂)).Nodup := h.nodup
  have hnodup' : (s :: (l₁ ++ l₂)).Nodup := by
    refine hnodup.sublist (List.Sublist.cons_cons s ?_)
    exact List.Sublist.append (List.Sublist.refl l₁) (sublist_cons_self e l₂)
  refine ⟨?_, hnodup'⟩
  obtain ⟨hs, hl⟩ := nodup_cons.mp hnodup'
  obtain ⟨-, hl₂, hdisj⟩ := nodup_append.mp hl
  rw [hx, hz]
  have hsplit : s :: (l₁ ++ l₂) ++ [s] = (pre ++ [x]) ++ z :: post := by
    rw [← hpre, ← hpost]
    simp
  -- In the two halves only the links at the seam have changed.
  have hdrop : ∀ a ∈ pre, a ≠ x := by
    intro a ha heq
    have hn : (pre ++ [x]).Nodup := by
      rw [← hpre]
      exact hnodup.sublist (List.Sublist.cons_cons s (sublist_append_left l₁ (e :: l₂)))
    rw [nodup_append] at hn
    exact hn.2.2 a ha x (by simp) heq
  have hpostnd : (z :: post).Nodup := by
    rw [← hpost, nodup_append]
    refine ⟨hl₂, nodup_singleton s, ?_⟩
    rintro a ha b hb rfl
    exact hs (mem_append_right l₁ (mem_singleton.mp hb ▸ ha))
  have hzl : z ∈ l₂ ∨ z = s := by
    have hz' : z ∈ l₂ ++ [s] := by simp [hpost]
    simpa using hz'
  have hxl : x ∈ l₁ ∨ x = s := by
    have hx' : x ∈ s :: l₁ := by simp [hpre]
    simpa [or_comm] using hx'
  rw [hsplit, isChain_append]
  refine ⟨isChain_linked_congr hleft ?_ ?_, isChain_linked_congr hright ?_ ?_, ?_⟩
  · intro a ha
    rw [dropLast_concat] at ha
    exact update_of_ne (hdrop a ha) _ _
  · intro b hb
    have hb' : b ∈ l₁ := by
      rw [← hpre] at hb
      exact hb
    refine update_of_ne ?_ _ _
    rintro rfl
    rcases hzl with hmem | rfl
    · exact hdisj b hb' b hmem rfl
    · exact hs (mem_append_left l₂ hb')
  · intro a ha
    have ha' : a ∈ l₂ := by
      rw [← hpost, dropLast_concat] at ha
      exact ha
    refine update_of_ne ?_ _ _
    rintro rfl
    rcases hxl with hmem | rfl
    · exact hdisj a hmem a ha' rfl
    · exact hs (mem_append_right l₁ ha')
  · intro b hb
    refine update_of_ne ?_ _ _
    rintro rfl
    exact (nodup_cons.mp hpostnd).1 hb
  · intro a ha b hb
    simp only [List.getLast?_append, List.getLast?_singleton, some_or, mem_def, some.injEq] at ha
    simp only [List.head?_cons, mem_def, some.injEq] at hb
    subst ha
    subst hb
    exact ⟨update_self .., update_self ..⟩

theorem Ring.insert (h : Ring next prev s l) (he : e ∉ s :: l) :
    Ring (update (update next e (next s)) s e)
      (update (update prev e s) (next s) e) s (e :: l) := by
  obtain ⟨hes, hel⟩ := not_or.mp (mt mem_cons.mpr he)
  obtain ⟨hsl, hl⟩ := nodup_cons.mp h.nodup
  have hnodup : (s :: e :: l).Nodup := by
    simp only [nodup_cons, mem_cons, not_or]
    exact ⟨⟨Ne.symm hes, hsl⟩, hel, hl⟩
  refine ⟨?_, hnodup⟩
  have hfirst := h.next_head
  have hchain := h.linked
  obtain ⟨z, post, hpost⟩ : ∃ z post, l ++ [s] = z :: post := by
    cases l with
    | nil => exact ⟨s, [], rfl⟩
    | cons a l => exact ⟨a, l ++ [s], rfl⟩
  have hz : next s = z := by
    rw [hfirst]
    cases l with
    | nil =>
      cases hpost
      rfl
    | cons a l =>
      cases hpost
      rfl
  have hcons : s :: l ++ [s] = s :: z :: post := by rw [cons_append, hpost]
  rw [hcons] at hchain
  obtain ⟨-, hrest⟩ := isChain_cons_cons.mp hchain
  have hze : z ≠ e := by
    have hmem : z ∈ l ++ [s] := by simp [hpost]
    rintro rfl
    rcases mem_append.mp hmem with hmem | hmem
    · exact hel hmem
    · exact hes (mem_singleton.mp hmem)
  have hpostnd : (z :: post).Nodup := by
    rw [← hpost, nodup_append]
    refine ⟨hl, nodup_singleton s, ?_⟩
    rintro a ha b hb rfl
    exact hsl (mem_singleton.mp hb ▸ ha)
  have hcons' : s :: (e :: l) ++ [s] = s :: e :: z :: post := by
    rw [cons_append, cons_append, hpost]
  rw [hcons', hz]
  refine isChain_cons_cons.mpr ⟨⟨update_self .., ?_⟩,
    isChain_cons_cons.mpr ⟨⟨?_, update_self ..⟩, isChain_linked_congr hrest ?_ ?_⟩⟩
  · rw [update_of_ne (Ne.symm hze), update_self]
  · rw [update_of_ne hes, update_self]
  · intro a ha
    rw [← hpost, dropLast_concat] at ha
    rw [update_of_ne (by rintro rfl; exact hsl ha), update_of_ne (by rintro rfl; exact hel ha)]
  · intro b hb
    have hbl : b ∈ l ++ [s] := by
      rw [hpost]
      exact mem_cons_of_mem z hb
    rw [update_of_ne (by rintro rfl; exact (nodup_cons.mp hpostnd).1 hb), update_of_ne]
    rintro rfl
    rcases mem_append.mp hbl with hmem | hmem
    · exact hel hmem
    · exact hes (mem_singleton.mp hmem)

end Ring

/-! ## Chains -/

section Chain

variable {S A : Type*} {link link' : S → Option A} {hl : A → S} {p : S} {a : A}
  {l l₁ l₂ : List A}

/-- The nodes `l` follow each other from the slot `p` on. -/
def Path (link : S → Option A) (hl : A → S) : S → List A → Prop
  | _, [] => True
  | p, a :: l => link p = some a ∧ Path link hl (hl a) l

/-- The slot behind the nodes `l`. -/
def endSlot (hl : A → S) : S → List A → S
  | p, [] => p
  | _, a :: l => endSlot hl (hl a) l

/-- The list that starts at the slot `p` has the nodes `l`. -/
def Chain (link : S → Option A) (hl : A → S) (p : S) (l : List A) : Prop :=
  Path link hl p l ∧ link (endSlot hl p l) = none

def slots (hl : A → S) (p : S) (l : List A) : List S := p :: l.map hl

theorem chain_nil : Chain link hl p [] ↔ link p = none := by simp [Chain, Path, endSlot]

theorem chain_cons : Chain link hl p (a :: l) ↔ link p = some a ∧ Chain link hl (hl a) l := by
  simp [Chain, Path, endSlot, and_assoc]

theorem endSlot_append : endSlot hl p (l₁ ++ l₂) = endSlot hl (endSlot hl p l₁) l₂ := by
  induction l₁ generalizing p with
  | nil => rfl
  | cons a l₁ ih => exact ih

theorem path_append :
    Path link hl p (l₁ ++ l₂) ↔ Path link hl p l₁ ∧ Path link hl (endSlot hl p l₁) l₂ := by
  induction l₁ generalizing p with
  | nil => simp [Path, endSlot]
  | cons a l₁ ih =>
    simp only [cons_append, Path, endSlot, ih, and_assoc]

theorem chain_append :
    Chain link hl p (l₁ ++ l₂) ↔ Path link hl p l₁ ∧ Chain link hl (endSlot hl p l₁) l₂ := by
  rw [Chain, path_append, endSlot_append, Chain, and_assoc]

theorem endSlot_mem_slots : endSlot hl p l ∈ slots hl p l := by
  induction l generalizing p with
  | nil => exact mem_cons_self
  | cons a l ih => exact mem_cons_of_mem _ ih

theorem Path.congr (h : Path link hl p l)
    (hlink : ∀ q ∈ (slots hl p l).dropLast, link' q = link q) : Path link' hl p l := by
  induction l generalizing p with
  | nil => trivial
  | cons a l ih =>
    obtain ⟨hp, hrest⟩ := h
    refine ⟨(hlink p (by simp [slots])).trans hp, ih hrest ?_⟩
    intro q hq
    exact hlink q (by simpa [slots] using Or.inr hq)

theorem Chain.congr (h : Chain link hl p l) (hlink : ∀ q ∈ slots hl p l, link' q = link q) :
    Chain link' hl p l := by
  refine ⟨h.1.congr fun q hq => hlink q (dropLast_subset _ hq), ?_⟩
  rw [hlink _ endSlot_mem_slots]
  exact h.2

theorem slots_eq_dropLast_concat : slots hl p l = (slots hl p l).dropLast ++ [endSlot hl p l] := by
  induction l generalizing p with
  | nil => rfl
  | cons a l ih =>
    have htail : slots hl p (a :: l) = p :: slots hl (hl a) l := rfl
    rw [htail]
    conv_lhs => rw [ih]
    simp [slots, endSlot]

theorem endSlot_notMem_dropLast (h : (slots hl p l).Nodup) :
    endSlot hl p l ∉ (slots hl p l).dropLast := by
  intro hmem
  rw [slots_eq_dropLast_concat, nodup_append] at h
  exact h.2.2 _ hmem _ (by simp) rfl

variable [DecidableEq S]

/-- Append a node: write it to the last slot. -/
theorem Chain.append (h : Chain link hl p l) (hnodup : (slots hl p (l ++ [a])).Nodup)
    (ha : link (hl a) = none) : Chain (update link (endSlot hl p l) (some a)) hl p (l ++ [a]) := by
  have hslots : slots hl p (l ++ [a]) = slots hl p l ++ [hl a] := by simp [slots]
  rw [hslots, nodup_append] at hnodup
  obtain ⟨hnodup, -, hdisj⟩ := hnodup
  rw [chain_append]
  refine ⟨h.1.congr fun q hq => update_of_ne ?_ _ _,
    chain_cons.mpr ⟨update_self .., chain_nil.mpr ?_⟩⟩
  · rintro rfl
    exact endSlot_notMem_dropLast hnodup hq
  · rw [update_of_ne]
    · exact ha
    · exact (hdisj _ endSlot_mem_slots _ (by simp)).symm

/-- Remove a node: write its link to the slot it was found in. -/
theorem Chain.unlink (h : Chain link hl p (l₁ ++ a :: l₂))
    (hnodup : (slots hl p (l₁ ++ a :: l₂)).Nodup) :
    Chain (update link (endSlot hl p l₁) (link (hl a))) hl p (l₁ ++ l₂) := by
  have hslots : slots hl p (l₁ ++ a :: l₂) = slots hl p l₁ ++ slots hl (hl a) l₂ := by
    simp [slots]
  rw [hslots, nodup_append] at hnodup
  obtain ⟨hnodup, -, hdisj⟩ := hnodup
  obtain ⟨hpath, hrest⟩ := chain_append.mp h
  obtain ⟨-, hchain⟩ := chain_cons.mp hrest
  rw [chain_append]
  refine ⟨hpath.congr fun q hq => update_of_ne ?_ _ _, ?_⟩
  · rintro rfl
    exact endSlot_notMem_dropLast hnodup hq
  · -- Behind the node the slots are untouched.
    have hne : ∀ q ∈ slots hl (hl a) l₂, q ≠ endSlot hl p l₁ :=
      fun q hq heq => hdisj _ endSlot_mem_slots q hq heq.symm
    cases l₂ with
    | nil =>
      rw [chain_nil] at hchain ⊢
      rw [update_self]
      exact hchain
    | cons b l₂ =>
      obtain ⟨hb, hchain⟩ := chain_cons.mp hchain
      refine chain_cons.mpr ⟨(update_self ..).trans hb, hchain.congr fun q hq => ?_⟩
      exact update_of_ne (hne q (by simpa [slots] using Or.inr hq)) _ _

end Chain

end Netd.Links
