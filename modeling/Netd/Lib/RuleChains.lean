import Mathlib.Data.List.Basic

/-!
# Chains of rules and their edits

A packet filter has chains of rules. They are edited by commands. A command is a list of
sections, and a section a list of edits of chains. A section is applied as a whole or not at
all, and a command stops at the first section that fails. An edit that deletes a rule fails if
the rule is not there. If the same rule is there more than once it deletes the first of them.
-/

namespace Netd.RuleChains

open List Function

variable {χ ρ : Type*} [DecidableEq χ] [DecidableEq ρ]

inductive ChainEdit (ρ : Type*) where
  | flush
  | append (r : ρ)
  | insert (r : ρ)
  | delete (r : ρ)

def ChainEdit.apply : ChainEdit ρ → List ρ → Option (List ρ)
  | .flush, _ => some []
  | .append r, rs => some (rs ++ [r])
  | .insert r, rs => some (r :: rs)
  | .delete r, rs => if r ∈ rs then some (rs.erase r) else none

abbrev Chains (χ ρ : Type*) := χ → List ρ

def commit : List (χ × ChainEdit ρ) → Chains χ ρ → Option (Chains χ ρ)
  | [], t => some t
  | (c, e) :: es, t => (e.apply (t c)).bind fun rs => commit es (update t c rs)

/-- The sections of a command, in order until one fails. -/
def restore : List (List (χ × ChainEdit ρ)) → Chains χ ρ → Chains χ ρ × Bool
  | [], t => (t, true)
  | es :: ess, t =>
    match commit es t with
    | some t' => restore ess t'
    | none => (t, false)

@[simp] theorem commit_nil (t : Chains χ ρ) : commit [] t = some t := rfl

section

variable (es : List (χ × ChainEdit ρ))

@[simp] theorem commit_flush (c : χ) (t : Chains χ ρ) :
    commit ((c, .flush) :: es) t = commit es (update t c []) := rfl

@[simp] theorem commit_append (c : χ) (r : ρ) (t : Chains χ ρ) :
    commit ((c, .append r) :: es) t = commit es (update t c (t c ++ [r])) := rfl

@[simp] theorem commit_insert (c : χ) (r : ρ) (t : Chains χ ρ) :
    commit ((c, .insert r) :: es) t = commit es (update t c (r :: t c)) := rfl

end

variable {c : χ} {r : ρ} {t : Chains χ ρ}

theorem commit_delete (es : List (χ × ChainEdit ρ)) (h : r ∈ t c) :
    commit ((c, .delete r) :: es) t = commit es (update t c ((t c).erase r)) := by
  simp [commit, ChainEdit.apply, h]

theorem commit_isSome {es : List (χ × ChainEdit ρ)} (h : ∀ c r, (c, .delete r) ∉ es)
    (t : Chains χ ρ) : (commit es t).isSome := by
  induction es generalizing t with
  | nil => rfl
  | cons ce es ih =>
    obtain ⟨c, e⟩ := ce
    have htail : ∀ c r, (c, .delete r) ∉ es := fun c r hmem =>
      h c r (mem_cons_of_mem _ hmem)
    cases e with
    | flush => exact ih htail _
    | append r => exact ih htail _
    | insert r => exact ih htail _
    | delete r => exact absurd mem_cons_self (h c r)

theorem restore_ok {ess : List (List (χ × ChainEdit ρ))}
    (h : ∀ es ∈ ess, ∀ c r, (c, .delete r) ∉ es) (t : Chains χ ρ) : (restore ess t).2 = true := by
  induction ess generalizing t with
  | nil => rfl
  | cons es ess ih =>
    obtain ⟨t', ht'⟩ := Option.isSome_iff_exists.mp (commit_isSome (h es mem_cons_self) t)
    rw [restore, ht']
    exact ih (fun fs hfs => h fs (mem_cons_of_mem _ hfs)) t'

section

variable (rs : List ρ)

theorem commit_deletes (hnodup : rs.Nodup) (hmem : ∀ r ∈ rs, r ∈ t c) :
    commit (rs.map fun r => (c, .delete r)) t =
      some (update t c (rs.foldl List.erase (t c))) := by
  induction rs generalizing t with
  | nil => simp
  | cons r rs ih =>
    obtain ⟨hr, hrs⟩ := nodup_cons.mp hnodup
    rw [map_cons, commit_delete _ (hmem r mem_cons_self)]
    have hmem' : ∀ q ∈ rs, q ∈ update t c ((t c).erase r) c := by
      intro q hq
      have hne : q ≠ r := by
        rintro rfl
        exact hr hq
      simpa using (mem_erase_of_ne hne).mpr (hmem q (mem_cons_of_mem r hq))
    rw [ih hrs hmem']
    simp

theorem commit_deletes_absent (hr : r ∈ rs) (habsent : r ∉ t c) :
    commit (rs.map fun r => (c, .delete r)) t = none := by
  induction rs generalizing t with
  | nil => cases hr
  | cons q rs ih =>
    rw [map_cons]
    by_cases hq : q ∈ t c
    · rw [commit_delete _ hq]
      have hne : r ≠ q := by
        rintro rfl
        exact habsent hq
      refine ih ((mem_cons.mp hr).resolve_left hne) ?_
      simpa using mt mem_of_mem_erase habsent
    · simp [commit, ChainEdit.apply, hq]

theorem count_foldl_erase (l : List ρ) (r : ρ) (hnodup : rs.Nodup) :
    (rs.foldl List.erase l).count r = l.count r - if r ∈ rs then 1 else 0 := by
  induction rs generalizing l with
  | nil => simp
  | cons q rs ih =>
    obtain ⟨hq, hrs⟩ := nodup_cons.mp hnodup
    rw [foldl_cons, ih _ hrs, count_erase]
    by_cases hr : r = q
    · subst hr
      simp [hq]
    · simp [hr, Ne.symm hr]

theorem mem_of_mem_foldl_erase {l : List ρ} (h : r ∈ rs.foldl List.erase l) : r ∈ l := by
  induction rs generalizing l with
  | nil => exact h
  | cons q rs ih => exact mem_of_mem_erase (ih h)

theorem foldl_erase_concat (l : List ρ) {d : ρ} (h : d ∉ rs) :
    rs.foldl List.erase (l ++ [d]) = rs.foldl List.erase l ++ [d] := by
  induction rs generalizing l with
  | nil => rfl
  | cons q rs ih =>
    obtain ⟨hne, htail⟩ := not_or.mp (mt mem_cons.mpr h)
    have herase : (l ++ [d]).erase q = l.erase q ++ [d] := by
      by_cases hq : q ∈ l
      · rw [erase_append_left _ hq]
      · rw [erase_append_right _ hq, erase_of_not_mem hq,
          erase_of_not_mem (by simpa using Ne.symm hne)]
    rw [foldl_cons, foldl_cons, herase, ih _ htail]

end

end Netd.RuleChains
