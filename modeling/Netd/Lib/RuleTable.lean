import Mathlib.Data.Multiset.Filter

/-!
# Tables of rules whose chains come and go

`RuleTable.Table` has the chains that exist and the rules of all of them. A section of a command is
applied as a whole or not at all. It fails if it deletes a rule that is not there, if it flushes or
removes a chain that does not exist, and if it removes a chain that has rules or that a rule refers
to.
-/

namespace Netd.RuleTable

open Multiset Function

variable {χ ρ : Type*} [DecidableEq χ] [DecidableEq ρ] {target : ρ → Option χ}

structure Entry (χ ρ : Type*) where
  chain : χ
  rule : ρ
  deriving DecidableEq

/-- The chains, and the rules with their chains, in order. -/
structure Table (χ ρ : Type*) where
  chains : List χ
  rules : List (Entry χ ρ)

inductive Line (χ ρ : Type*) where
  /-- Make the chain, or flush it if it is there. -/
  | declare (c : χ)
  | append (c : χ) (r : ρ)
  /-- Insert the rule after the first `pos` rules of the chain. -/
  | insert (c : χ) (pos : Nat) (r : ρ)
  | delete (c : χ) (r : ρ)
  | flush (c : χ)
  | remove (c : χ)

def insertAt (x : Entry χ ρ) : Nat → List (Entry χ ρ) → List (Entry χ ρ)
  | 0, rules => x :: rules
  | _ + 1, [] => [x]
  | pos + 1, y :: rules => y :: insertAt x (if y.chain = x.chain then pos else pos + 1) rules

/-- The table after a line. `target` has the chain that a rule refers to. -/
def Line.apply (target : ρ → Option χ) : Line χ ρ → Table χ ρ → Option (Table χ ρ)
  | .declare c, t =>
    some ⟨if c ∈ t.chains then t.chains else c :: t.chains, t.rules.filter fun x => x.chain ≠ c⟩
  | .append c r, t => some { t with rules := t.rules ++ [⟨c, r⟩] }
  | .insert c pos r, t => some { t with rules := insertAt ⟨c, r⟩ pos t.rules }
  | .delete c r, t =>
    if ⟨c, r⟩ ∈ t.rules then some { t with rules := t.rules.erase ⟨c, r⟩ } else none
  | .flush c, t =>
    if c ∈ t.chains then some { t with rules := t.rules.filter fun x => x.chain ≠ c } else none
  | .remove c, t =>
    if c ∈ t.chains ∧ ∀ x ∈ t.rules, x.chain ≠ c ∧ target x.rule ≠ some c then
      some { t with chains := t.chains.filter fun d => d ≠ c }
    else none

/-- A section, all or nothing. -/
def commit (target : ρ → Option χ) : List (Line χ ρ) → Table χ ρ → Option (Table χ ρ)
  | [], t => some t
  | l :: ls, t => (l.apply target t).bind (commit target ls)

/-! ## Without the order of the rules -/

/-- The chains, and the rules without their order. -/
structure View (χ ρ : Type*) where
  chains : List χ
  rules : Multiset (Entry χ ρ)

def Table.view (t : Table χ ρ) : View χ ρ := ⟨t.chains, t.rules⟩

namespace View

def apply (target : ρ → Option χ) : Line χ ρ → View χ ρ → Option (View χ ρ)
  | .declare c, v =>
    some ⟨if c ∈ v.chains then v.chains else c :: v.chains, v.rules.filter fun x => x.chain ≠ c⟩
  | .append c r, v => some { v with rules := ⟨c, r⟩ ::ₘ v.rules }
  | .insert c _ r, v => some { v with rules := ⟨c, r⟩ ::ₘ v.rules }
  | .delete c r, v =>
    if ⟨c, r⟩ ∈ v.rules then some { v with rules := v.rules.erase ⟨c, r⟩ } else none
  | .flush c, v =>
    if c ∈ v.chains then some { v with rules := v.rules.filter fun x => x.chain ≠ c } else none
  | .remove c, v =>
    if c ∈ v.chains ∧ ∀ x ∈ v.rules, x.chain ≠ c ∧ target x.rule ≠ some c then
      some { v with chains := v.chains.filter fun d => d ≠ c }
    else none

/-- A section, all or nothing. -/
def commit (target : ρ → Option χ) : List (Line χ ρ) → View χ ρ → Option (View χ ρ)
  | [], v => some v
  | l :: ls, v => (apply target l v).bind (commit target ls)

variable (target : ρ → Option χ) (ls : List (Line χ ρ)) (v : View χ ρ) (c : χ) (r : ρ)

@[simp] theorem commit_nil : commit target [] v = some v := rfl

@[simp] theorem commit_declare : commit target (.declare c :: ls) v = commit target ls
      ⟨if c ∈ v.chains then v.chains else c :: v.chains, v.rules.filter fun x => x.chain ≠ c⟩ := rfl

@[simp] theorem commit_append : commit target (.append c r :: ls) v =
      commit target ls { v with rules := ⟨c, r⟩ ::ₘ v.rules } := rfl

@[simp] theorem commit_insert (pos : Nat) : commit target (.insert c pos r :: ls) v =
      commit target ls { v with rules := ⟨c, r⟩ ::ₘ v.rules } := rfl

@[simp] theorem commit_delete (chains : List χ) (rules : Multiset (Entry χ ρ)) :
    commit target (.delete c r :: ls) ⟨chains, ⟨c, r⟩ ::ₘ rules⟩ =
      commit target ls ⟨chains, rules⟩ := by
  simp [commit, apply]

theorem commit_flush {v : View χ ρ} (h : c ∈ v.chains) : commit target (.flush c :: ls) v =
      commit target ls { v with rules := v.rules.filter fun x => x.chain ≠ c } := by
  simp [commit, apply, h]

theorem commit_remove {v : View χ ρ} (h : c ∈ v.chains)
    (hfree : ∀ x ∈ v.rules, x.chain ≠ c ∧ target x.rule ≠ some c) :
    commit target (.remove c :: ls) v =
      commit target ls { v with chains := v.chains.filter fun d => d ≠ c } := by
  have hcond : c ∈ v.chains ∧ ∀ x ∈ v.rules, x.chain ≠ c ∧ target x.rule ≠ some c := ⟨h, hfree⟩
  simp only [commit, apply, if_pos hcond, Option.bind_some]

theorem commit_concat (ls' : List (Line χ ρ)) :
    commit target (ls ++ ls') v = (commit target ls v).bind (commit target ls') := by
  induction ls generalizing v with
  | nil => rfl
  | cons l ls ih =>
    rw [List.cons_append, commit, commit, Option.bind_assoc]
    exact congrArg _ (funext ih)

end View

omit [DecidableEq ρ] in
theorem coe_insertAt (x : Entry χ ρ) (pos : Nat) (rules : List (Entry χ ρ)) :
    (insertAt x pos rules : Multiset (Entry χ ρ)) = x ::ₘ rules := by
  induction rules generalizing pos with
  | nil => cases pos <;> rfl
  | cons y rules ih =>
    cases pos with
    | zero => rfl
    | succ pos =>
      rw [insertAt, ← cons_coe, ih, cons_swap, cons_coe]

open View

theorem apply_view (target : ρ → Option χ) (l : Line χ ρ) (t : Table χ ρ) :
    (l.apply target t).map Table.view = apply target l t.view := by
  cases l with
  | declare c => rfl
  | append c r =>
    have hperm : (t.rules ++ [Entry.mk c r]).Perm (Entry.mk c r :: t.rules) :=
      List.perm_append_singleton _ _
    exact congrArg (fun rules => some (mk t.chains rules)) (Quot.sound hperm)
  | insert c pos r =>
    exact congrArg (fun rules => some (mk t.chains rules))
      (coe_insertAt (Entry.mk c r) pos t.rules)
  | delete c r =>
    simp only [Line.apply, apply, Table.view, mem_coe]
    split <;> rfl
  | flush c =>
    by_cases h : c ∈ t.chains
    · have h' : c ∈ t.view.chains := h
      simp only [Line.apply, apply, if_pos h, if_pos h']
      rfl
    have h' : c ∉ t.view.chains := h
    simp only [Line.apply, apply, if_neg h, if_neg h']
    rfl
  | remove c =>
    simp only [Line.apply, apply, Table.view, mem_coe]
    split <;> rfl

theorem commit_view (target : ρ → Option χ) (ls : List (Line χ ρ)) (t : Table χ ρ) :
    (commit target ls t).map Table.view = View.commit target ls t.view := by
  induction ls generalizing t with
  | nil => rfl
  | cons l ls ih =>
    rw [commit, View.commit, ← apply_view]
    cases l.apply target t with
    | none => rfl
    | some t' => exact ih t'

theorem exists_commit {ls : List (Line χ ρ)} {t : Table χ ρ} {v : View χ ρ}
    (h : View.commit target ls t.view = some v) :
    ∃ t', commit target ls t = some t' ∧ t'.view = v := by
  rw [← commit_view] at h
  exact Option.map_eq_some_iff.mp h

/-! ## Parts of the rules -/

/-- The line does not empty or remove a chain that the other rules are in or refer to. -/
def Line.Spares (target : ρ → Option χ) (others : Multiset (Entry χ ρ)) : Line χ ρ → Prop
  | .declare c | .flush c => ∀ x ∈ others, x.chain ≠ c
  | .remove c => ∀ x ∈ others, x.chain ≠ c ∧ target x.rule ≠ some c
  | .append _ _ | .insert _ _ _ | .delete _ _ => True

omit [DecidableEq ρ] in
theorem filter_add_others {c : χ} {mine others : Multiset (Entry χ ρ)}
    (h : ∀ x ∈ others, x.chain ≠ c) :
    (mine + others).filter (fun x => x.chain ≠ c) =
      mine.filter (fun x => x.chain ≠ c) + others := by
  rw [filter_add, filter_eq_self.mpr h]

section Parts

variable {target : ρ → Option χ} {others : Multiset (Entry χ ρ)}

theorem apply_add {l : Line χ ρ} (hl : l.Spares target others) {v v' : View χ ρ}
    (h : apply target l v = some v') :
    apply target l ⟨v.chains, v.rules + others⟩ = some ⟨v'.chains, v'.rules + others⟩ := by
  cases l with
  | declare c =>
    cases h
    simp only [apply, filter_add_others hl]
  | append c r =>
    cases h
    simp only [apply, cons_add]
  | insert c pos r =>
    cases h
    simp only [apply, cons_add]
  | delete c r =>
    simp only [apply] at h ⊢
    split at h
    · rename_i hmem
      cases h
      rw [if_pos (mem_add.mpr (.inl hmem)), erase_add_left_pos _ hmem]
    · cases h
  | flush c =>
    simp only [apply] at h ⊢
    split at h
    · rename_i hc
      cases h
      simp only [if_pos hc, filter_add_others hl]
    · cases h
  | remove c =>
    simp only [apply] at h ⊢
    split at h
    · rename_i hfree
      cases h
      rw [if_pos ⟨hfree.1, fun x hx => (mem_add.mp hx).elim (hfree.2 x) (hl x)⟩]
    · cases h

/-- **Frame rule.**  What a section does to a part of the rules it does beside others that it
spares. -/
theorem commit_add {ls : List (Line χ ρ)} (hls : ∀ l ∈ ls, l.Spares target others)
    {v v' : View χ ρ} (h : View.commit target ls v = some v') :
    View.commit target ls ⟨v.chains, v.rules + others⟩ = some ⟨v'.chains, v'.rules + others⟩ := by
  induction ls generalizing v with
  | nil =>
    cases h
    rfl
  | cons l ls ih =>
    obtain ⟨w, hw, hrest⟩ := Option.bind_eq_some_iff.mp h
    rw [View.commit, apply_add (hls l List.mem_cons_self) hw, Option.bind_some]
    exact ih (fun k hk => hls k (List.mem_cons_of_mem l hk)) hrest

end Parts

section Owners

variable {ω : Type*} [DecidableEq ω] {owner : Entry χ ρ → ω} {parts : ω → Multiset (Entry χ ρ)}
  {rules : Multiset (Entry χ ρ)} {o : ω}

def Owned (owner : Entry χ ρ → ω) (parts : ω → Multiset (Entry χ ρ))
    (rules : Multiset (Entry χ ρ)) : Prop :=
  ∀ o, rules.filter (fun x => owner x = o) = parts o

omit [DecidableEq χ] [DecidableEq ρ] in
theorem Owned.mem_iff (h : Owned owner parts rules) {x : Entry χ ρ} :
    x ∈ parts o ↔ x ∈ rules ∧ owner x = o := by
  rw [← h o]
  exact mem_filter

omit [DecidableEq χ] [DecidableEq ρ] in
theorem Owned.mem (h : Owned owner parts rules) {x : Entry χ ρ} (hx : x ∈ rules) :
    x ∈ parts (owner x) :=
  h.mem_iff.mpr ⟨hx, rfl⟩

omit [DecidableEq χ] [DecidableEq ρ] in
theorem Owned.split (h : Owned owner parts rules) (o : ω) :
    rules = parts o + rules.filter fun x => owner x ≠ o := by
  rw [← h o]
  exact (filter_add_not _ rules).symm

omit [DecidableEq χ] [DecidableEq ρ] in
theorem Owned.update (h : Owned owner parts rules) {new : Multiset (Entry χ ρ)}
    (hnew : ∀ x ∈ new, owner x = o) :
    Owned owner (update parts o new) (new + rules.filter fun x => owner x ≠ o) := by
  intro o'
  rw [filter_add, filter_filter]
  by_cases heq : o' = o
  · subst heq
    have hnone : rules.filter (fun x => owner x = o' ∧ owner x ≠ o') = 0 :=
      filter_eq_nil.mpr fun _ _ hx => hx.2 hx.1
    rw [update_self, Multiset.filter_eq_self.mpr hnew, hnone, Multiset.add_zero]
  · have hnone : new.filter (fun x => owner x = o') = 0 :=
      filter_eq_nil.mpr fun x hx hx' => heq (hx'.symm.trans (hnew x hx))
    have hsame : rules.filter (fun x => owner x = o' ∧ owner x ≠ o) = parts o' := by
      rw [← h o']
      refine filter_congr fun x _ => ⟨fun hx => hx.1, fun hx => ⟨hx, ?_⟩⟩
      rwa [hx]
    rw [update_of_ne heq, hnone, hsame, Multiset.zero_add]

/-- A section about one owner gives that owner the part it makes of the owner's part. -/
theorem Owned.commit {v : View χ ρ} (h : Owned owner parts v.rules) (o : ω) {ls : List (Line χ ρ)}
    (hls : ∀ l ∈ ls, l.Spares target (v.rules.filter fun x => owner x ≠ o)) {v' : View χ ρ}
    (hcommit : View.commit target ls ⟨v.chains, parts o⟩ = some v')
    (hnew : ∀ x ∈ v'.rules, owner x = o) :
    ∃ w, View.commit target ls v = some w ∧ w.chains = v'.chains ∧
      Owned owner (Function.update parts o v'.rules) w.rules := by
  have hframe := commit_add hls hcommit
  rw [← h.split o] at hframe
  exact ⟨_, hframe, rfl, h.update hnew⟩

end Owners

end Netd.RuleTable
