import Netd.Policy.Edits

/-!
# Policy items and who owns them

The *policy* of a family is the multiset of its rules and mark rules, without the tethering rules.
`About idx i` holds of the rules that a deletion request for a rule of interface `i` could select.
-/

namespace Netd

open List Multiset Edit PrioList Rule

inductive Item where
  | rule (r : Rule)
  | mark (m : MarkRule)
  deriving DecidableEq

def items (rs : List Rule) (ms : List MarkRule) : Multiset Item :=
  ↑(rs.map Item.rule) + ↑(ms.map Item.mark)

def policy (w : Routing) (fam : Family) : Multiset Item :=
  ((w.rules fam).bag.filter fun r => r.priority ≠ rulePriorityTethering).map .rule +
    (w.mangle fam : Multiset MarkRule).map .mark

open Item

theorem mem_items_rule {rs : List Rule} {ms : List MarkRule} {r : Rule} :
    rule r ∈ items rs ms ↔ r ∈ rs := by
  simp [items]

theorem mem_policy_rule {w : Routing} {fam : Family} {r : Rule} :
    rule r ∈ policy w fam ↔ r ∈ (w.rules fam).toList ∧ r.priority ≠ rulePriorityTethering := by
  simp [policy, mem_bag]

theorem items_nil : items [] [] = 0 := rfl

theorem items_append (rs rs' : List Rule) (ms ms' : List MarkRule) :
    items (rs ++ rs') (ms ++ ms') = items rs ms + items rs' ms' := by
  rw [items, items, items, map_append, map_append, ← coe_add, ← coe_add, add_add_add_comm]

/-! ## Ownership -/

/-- A deletion request for a rule of interface `i` could select the rule. -/
def Rule.About (idx : String → Nat) (i : String) (x : Rule) : Prop :=
  x.priority ≠ 0 ∧ x.priority ≠ rulePriorityTethering ∧
    ((idx i ≠ 0 ∧ x.table = tableOf idx i) ∨ x.oif = some i ∨
      (x.priority = rulePriorityVpnOutputToLocal ∧ x.iif = some i))

/-- Ownership of items. Mark rules are deleted by value, so no one else can delete them. -/
def About (idx : String → Nat) (i : String) : Item → Prop
  | .rule x => x.About idx i
  | .mark _ => False

theorem Rule.selects_about {idx : String → Nat} {i : String} {d x : Rule}
    (hd : d.About idx i) (h : d.selects x = true) : x.About idx i := by
  obtain ⟨hprio, _, htable, _, hiif, hoif, _⟩ := selects_iff.mp h
  obtain ⟨hzero, htether, hown⟩ := hd
  refine ⟨hprio ▸ hzero, hprio ▸ htether, ?_⟩
  rcases hown with ⟨hidx, ht⟩ | ho | ⟨hp, hi⟩
  · refine .inl ⟨hidx, (htable ?_).trans ht⟩
    rw [ht]
    exact Nat.ne_of_gt (Nat.add_pos_right _ (by decide))
  · exact .inr (.inl (hoif i ho))
  · exact .inr (.inr ⟨hprio.trans hp, hiif i hi⟩)

/-! ## From scripts to replacements -/

/-- The state is numbered and its tethering rules satisfy `T`. -/
structure Sound (idx : String → Nat) (T : Rule → Prop) (w : Routing) : Prop where
  numbered : Numbered idx w
  tethering : ∀ fam, ∀ x ∈ (w.rules fam).toList, x.priority = rulePriorityTethering → T x

section

variable {idx : String → Nat} {T : Rule → Prop} {w w' : Routing}

/-- What scripts did to the rules of a family, read as a change of its policy. -/
theorem policy_balance {fam : Family} {as ds : List Rule} {ms ns : List MarkRule}
    (has : ∀ a ∈ as, a.priority ≠ rulePriorityTethering)
    (hds : ∀ d ∈ ds, d.priority ≠ rulePriorityTethering)
    (hrules : (w.rules fam).bag + ↑as = (w'.rules fam).bag + ↑ds)
    (hmarks : (↑(w.mangle fam) + ↑ms : Multiset MarkRule) = ↑(w'.mangle fam) + ↑ns) :
    policy w fam + items as ms = policy w' fam + items ds ns := by
  have hkeep : ∀ rs : List Rule, (∀ r ∈ rs, r.priority ≠ rulePriorityTethering) →
      Multiset.filter (fun r : Rule => r.priority ≠ rulePriorityTethering) ↑rs = ↑rs :=
    fun rs hrs => filter_eq_self.mpr fun r hr => hrs r (mem_coe.mp hr)
  have hr := congrArg (fun M : Multiset Rule =>
    (M.filter fun r => r.priority ≠ rulePriorityTethering).map rule) hrules
  have hm := congrArg (Multiset.map mark) hmarks
  simp only [filter_add, hkeep as has, hkeep ds hds, map_add, map_coe] at hr hm
  rw [policy, policy, items, items, map_coe, map_coe, add_add_add_comm, hr, hm, add_add_add_comm]

/-- Tethering rules are only lost. -/
theorem Sound.of_balance {as ds : List Rule} (h : Sound idx T w) (hnum : Numbered idx w')
    (has : ∀ a ∈ as, a.priority ≠ rulePriorityTethering)
    (hrules : ∀ fam, (w.rules fam).bag + ↑as = (w'.rules fam).bag + ↑ds) : Sound idx T w' := by
  refine ⟨hnum, fun fam x hx hprio => h.tethering fam x ?_ hprio⟩
  have hmem : x ∈ (w.rules fam).bag + ↑as := by
    rw [hrules fam]
    exact mem_add.mpr (.inl (mem_bag.mpr hx))
  cases mem_add.mp hmem with
  | inl hold => exact mem_bag.mp hold
  | inr hnew => exact absurd hprio (has x hnew)

variable {m : Call Routing} {own : Item → Prop} {P : Multiset Item} {rs : List Rule}
  {ms : List MarkRule} {R : Family → Multiset Item}

/-- The requests for deleting these rules only select rules of the owner. -/
structure RequestsOwn (own : Item → Prop) (rs : List Rule) : Prop where
  not_tethering : ∀ d ∈ rs, d.priority ≠ rulePriorityTethering
  selects : ∀ d ∈ rs, ∀ x, d.selects x = true → own (.rule x)

theorem requestsOwn_about {i : String} (h : ∀ d ∈ rs, d.About idx i) :
    RequestsOwn (About idx i) rs :=
  ⟨fun d hd => (h d hd).2.1, fun d hd _ hsel => selects_about (h d hd) hsel⟩

/-- A rule that a request of the owner selects is in the footprint, when the rest
has nothing of the owner. -/
theorem RequestsOwn.mem_footprint {d x : Rule} {fam : Family} (h : RequestsOwn own rs)
    (hR : ∀ fam, ∀ x ∈ R fam, ¬ own x) (hv : policy w fam = R fam + P) (hd : d ∈ rs)
    (hx : x ∈ (w.rules fam).toList) (hsel : d.selects x = true) : rule x ∈ P := by
  have hprio : x.priority ≠ rulePriorityTethering := selects_priority hsel ▸ h.not_tethering d hd
  have hmem : rule x ∈ R fam + P := hv ▸ mem_policy_rule.mpr ⟨hx, hprio⟩
  cases mem_add.mp hmem with
  | inl hr => exact absurd (h.selects d hd x hsel) (hR fam _ hr)
  | inr hp => exact hp

/-- A call that adds `as` to and takes `ds` from the rules or mark rules replaces the items of `ds`
by those of `as`. -/
theorem replaces_of_balance {as ds : List Rule} {ms ns : List MarkRule}
    (has : ∀ a ∈ as, a.priority ≠ rulePriorityTethering)
    (hds : ∀ d ∈ ds, d.priority ≠ rulePriorityTethering)
    (hm : ∀ (R : Family → Multiset Item) (w w' : Routing), (∀ fam, ∀ x ∈ R fam, ¬ own x) →
      Sound idx T w →
      (∀ fam, policy w fam = R fam + (P + items ds ns)) → m w = (0, w') →
      Numbered idx w' ∧ ∀ fam, (w.rules fam).bag + ↑as = (w'.rules fam).bag + ↑ds ∧
        (↑(w.mangle fam) + ↑ms : Multiset MarkRule) = ↑(w'.mangle fam) + ↑ns) :
    Replaces policy (Sound idx T) own (P + items ds ns) (P + items as ms) m := by
  refine ⟨fun R w w' hR hw hv h => ?_⟩
  obtain ⟨hnum, hbalance⟩ := hm R w w' hR hw hv h
  refine ⟨hw.of_balance hnum has fun fam => (hbalance fam).1, fun fam => ?_⟩
  have hpolicy := policy_balance has hds (hbalance fam).1 (hbalance fam).2
  refine add_right_cancel (b := items ds ns) ?_
  calc policy w' fam + items ds ns
      = R fam + (P + items ds ns) + items as ms := by rw [← hpolicy, hv fam]
    _ = R fam + (P + items as ms) + items ds ns := by ac_rfl

/-- A script of additions adds its items. -/
theorem Performs.installs (h : Performs idx m (rs.map .add) (ms.map .add))
    (hrs : ∀ r ∈ rs, r.priority ≠ rulePriorityTethering) :
    Replaces policy (Sound idx T) own P (P + items rs ms) m := by
  have hadd := @replaces_of_balance idx T m own P rs [] ms [] hrs
    (fun _ hd => absurd hd not_mem_nil) fun R w w' _ hw _ hm => ?_
  · rwa [items_nil, add_zero] at hadd
  obtain ⟨hnum, heff⟩ := h.spec w w' hw.numbered hm
  refine ⟨hnum, fun fam => ⟨?_, ?_⟩⟩
  · rw [runEdits_adds (heff.rules fam), coe_nil, add_zero]
  · have hmarks := heff.marks fam
    rwa [added_map_add, deleted_map_add] at hmarks

/-- A script of deletions removes its items, when no request selects another rule
of the owner. -/
theorem Performs.removes (h : Performs idx m (rs.map .del) (ms.map .del)) (hrs : RequestsOwn own rs)
    (huniq : ∀ d ∈ rs, ∀ x, rule x ∈ P + items rs ms → d.selects x = true → x = d) :
    Replaces policy (Sound idx T) own (P + items rs ms) P m := by
  have hdel := @replaces_of_balance idx T m own P [] rs [] ms
    (fun _ ha => absurd ha not_mem_nil) hrs.not_tethering
    fun R w w' hR hw hv hm => ?_
  · rwa [items_nil, add_zero] at hdel
  obtain ⟨hnum, heff⟩ := h.spec w w' hw.numbered hm
  refine ⟨hnum, fun fam => ⟨?_, ?_⟩⟩
  · rw [coe_nil, add_zero]
    refine runEdits_dels (heff.rules fam) fun d hd x hx hsel => ?_
    exact huniq d hd x (hrs.mem_footprint hR (hv fam) hd hx hsel) hsel
  · have hmarks := heff.marks fam
    rwa [added_map_del, deleted_map_del] at hmarks

theorem Performs.installsRules (h : Performs idx m (rs.map .add) [])
    (hrs : ∀ r ∈ rs, r.priority ≠ rulePriorityTethering) :
    Replaces policy (Sound idx T) own P (P + items rs []) m :=
  @Performs.installs idx T m own P rs [] h hrs

theorem Performs.removesRules (h : Performs idx m (rs.map .del) []) (hrs : RequestsOwn own rs)
    (huniq : ∀ d ∈ rs, ∀ x, rule x ∈ P + items rs [] → d.selects x = true → x = d) :
    Replaces policy (Sound idx T) own (P + items rs []) P m :=
  @Performs.removes idx T m own P rs [] h hrs huniq

/-- What a script of deletions removed was there. -/
theorem Performs.removed_le (h : Performs idx m (rs.map .del) []) (hrs : RequestsOwn own rs)
    (huniq : ∀ d ∈ rs, ∀ x, rule x ∈ P → d.selects x = true → x = d)
    (hR : ∀ fam, ∀ x ∈ R fam, ¬ own x) (hw : Sound idx T w) (hv : ∀ fam, policy w fam = R fam + P)
    (hm : m w = (0, w')) : items rs [] ≤ P := by
  obtain ⟨_, heff⟩ := h.spec w w' hw.numbered hm
  have hrules : (w.rules .inet).bag + ↑([] : List Rule) = (w'.rules .inet).bag + ↑rs := by
    rw [coe_nil, add_zero]
    exact runEdits_dels (heff.rules .inet) fun d hd x hx hsel =>
      huniq d hd x (hrs.mem_footprint hR (hv .inet) hd hx hsel) hsel
  have hbal : policy w .inet + items [] [] = policy w' .inet + items rs [] :=
    policy_balance (fun _ ha => absurd ha not_mem_nil) hrs.not_tethering hrules
      (heff.marks .inet)
  rw [items_nil, add_zero, hv .inet] at hbal
  refine le_iff_count.mpr fun x => ?_
  by_cases hx : x ∈ items rs []
  · have hxR : x ∉ R .inet := by
      intro hmem
      cases x with
      | rule d =>
        have hown := hrs.selects d (mem_items_rule.mp hx) d (selects_self d)
        exact hR .inet _ hmem hown
      | mark m => simp [items] at hx
    have hcount := congrArg (Multiset.count x) hbal
    rw [count_add, count_add, count_eq_zero_of_notMem hxR] at hcount
    omega
  · rw [count_eq_zero_of_notMem hx]
    exact Nat.zero_le _

/-- A script that adds new items and deletes old ones of different priorities, when before it no
request selects another rule of the owner. -/
theorem Performs.swaps {as ds : List Rule} {ms ns : List MarkRule}
    (h : Performs idx m (as.map .add ++ ds.map .del) (ms.map .add ++ ns.map .del))
    (has : ∀ a ∈ as, a.priority ≠ rulePriorityTethering) (hds : RequestsOwn own ds)
    (hdiff : ds.Pairwise fun a b => a.priority ≠ b.priority)
    (huniq : ∀ d ∈ ds, ∀ x, rule x ∈ P + items ds ns → d.selects x = true → x = d) :
    Replaces policy (Sound idx T) own (P + items ds ns) (P + items as ms) m := by
  refine replaces_of_balance has hds.not_tethering fun R w w' hR hw hv hm => ?_
  obtain ⟨hnum, heff⟩ := h.spec w w' hw.numbered hm
  refine ⟨hnum, fun fam => ⟨?_, ?_⟩⟩
  · refine runEdits_swap (heff.rules fam) (fun d x => selects_priority) hdiff fun d hd => ?_
    have hmem : rule d ∈ policy w fam := by
      rw [hv fam]
      exact mem_add.mpr (.inr (mem_add.mpr (.inr (mem_items_rule.mpr hd))))
    exact find?_eq_of_unique
      (any_eq_true.mpr ⟨d, (mem_policy_rule.mp hmem).1, selects_self d⟩)
      fun x hx hsel =>
        huniq d hd x (hds.mem_footprint hR (hv fam) hd hx hsel) hsel
  · have hmarks := heff.marks fam
    rwa [added_append, deleted_append, added_map_add, added_map_del,
      deleted_map_add, deleted_map_del, add_zero, zero_add] at hmarks

end

end Netd
