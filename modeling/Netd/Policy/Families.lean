import Netd.Policy.Ledger

/-!
# The rules of a balanced ledger

A rule that netd has installed is one of `Init`, one of an interface of a network,
a prohibit rule of a rejected range, or a tethering rule. `ControllerRule` has the
second kind by the family it belongs to, with the state of the controller that
the rule follows from.
-/

namespace Netd

open NetworkController List Item

inductive ControllerRule (idx : String → Nat) (c : NetworkController) : Rule → Prop
  | physical {k : Nat} {p : PhysicalNetwork} {i : String} {x : Rule}
      (hk : c.getNetworkLocked k = some (.physical p)) (hi : i ∈ p.mInterfaces.keys)
      (hx : x ∈ physicalRules k i (tableOf idx i) p.mPermission) : ControllerRule idx c x
  | default {k : Nat} {p : PhysicalNetwork} {i : String} {x : Rule}
      (hk : c.getNetworkLocked k = some (.physical p)) (hi : i ∈ p.mInterfaces.keys)
      (hd : p.mIsDefault = true)
      (hx : x ∈ defaultRules c.virtualNetIds (tableOf idx i) p.mPermission) :
      ControllerRule idx c x
  | users {k : Nat} {v : VirtualNetwork} {i : String} {r : UidRangeParcel} {x : Rule}
      (hk : c.getNetworkLocked k = some (.virtual v)) (hi : i ∈ v.mInterfaces.keys)
      (hr : r ∈ v.mUidRanges.mRanges) (hne : r.start ≠ invalidUid)
      (hx : x ∈ virtualUidRules k i (tableOf idx i) v.mSecure r) : ControllerRule idx c x
  | virtual {k : Nat} {v : VirtualNetwork} {i : String} {x : Rule}
      (hk : c.getNetworkLocked k = some (.virtual v)) (hi : i ∈ v.mInterfaces.keys)
      (hx : x ∈ virtualNonUidRules k i (tableOf idx i) v.mSecure) : ControllerRule idx c x
  | «local» {k : Nat} {l : LocalNetwork} {i : String} {x : Rule}
      (hk : c.getNetworkLocked k = some (.local l)) (hi : i ∈ l.mInterfaces.keys)
      (hx : x ∈ localRules i) : ControllerRule idx c x

section

variable {idx : String → Nat} {T : Rule → Prop} {base : Family → Multiset Item}
  {rejects : Multiset UidRangeParcel} {c : NetworkController} {w : Routing} {x : Rule}
  {r : UidRangeParcel}

section

variable (h : Ledger idx T base rejects c w)
include h

theorem Ledger.controllerRule
    (hx : rule x ∈ controllerItems idx c) : ControllerRule idx c x := by
  obtain ⟨⟨k, n⟩, he, hx⟩ := mem_sum_map.mp hx
  have hk : c.getNetworkLocked k = some n := OrdMap.find?_eq_some.mpr he
  have hid := h.shape.netId_eq k n hk
  obtain ⟨i, hi, hx⟩ := mem_sum_map.mp hx
  cases n with
  | dummy d => exact absurd hx (Multiset.notMem_zero _)
  | «local» l => exact .local hk hi (mem_items_rule.mp hx)
  | physical p =>
    cases hid
    rcases Multiset.mem_add.mp hx with hdef | hphys
    · split at hdef
      · next hd => exact .default hk hi hd (mem_items_rule.mp hdef)
      · exact absurd hdef (Multiset.notMem_zero _)
    · exact .physical hk hi (mem_items_rule.mp hphys)
  | virtual v =>
    cases hid
    rcases Multiset.mem_add.mp hx with huid | hnon
    · obtain ⟨r, hr, hxr⟩ := mem_virtualUidItems.mp huid
      exact .users hk hi hr ((h.ranges_ok _ _ hk).2 (ne_nil_of_mem hi) r hr) hxr
    · exact .virtual hk hi (mem_items_rule.mp hnon)

/-- A rule for the users of a VPN is among the items of the controller. -/
theorem Ledger.users_mem {k : Nat} {v : VirtualNetwork} {i : String}
    (hk : c.getNetworkLocked k = some (.virtual v)) (hi : i ∈ v.mInterfaces.keys)
    (hr : r ∈ v.mUidRanges.mRanges) (hx : x ∈ virtualUidRules k i (tableOf idx i) v.mSecure r)
    (fam : Family) : x ∈ (w.rules fam).toList := by
  have hid : v.mNetId = k := h.shape.netId_eq k _ hk
  have hitem : rule x ∈ controllerItems idx c := by
    refine mem_sum_map.mpr ⟨(k, .virtual v), OrdMap.find?_eq_some.mp hk, ?_⟩
    refine mem_sum_map.mpr ⟨i, hi, Multiset.mem_add.mpr (.inl ?_)⟩
    exact mem_virtualUidItems.mpr ⟨r, hr, hid.symm ▸ hx⟩
  have hpolicy : rule x ∈ policy w fam := by
    rw [h.balance fam]
    exact Multiset.mem_add.mpr (.inl (Multiset.mem_add.mpr (.inr hitem)))
  exact (mem_policy_rule.mp hpolicy).1

theorem Ledger.reject_mem (hr : r ∈ rejects) (fam : Family) :
    prohibitNonVpnRule r ∈ (w.rules fam).toList := by
  have hpolicy : rule (prohibitNonVpnRule r) ∈ policy w fam := by
    rw [h.balance fam]
    exact Multiset.mem_add.mpr (.inr (Multiset.mem_map_of_mem _ hr))
  exact (mem_policy_rule.mp hpolicy).1

/-- Every rule in the kernel is one of the four kinds. -/
theorem Ledger.rule_cases (hbase : InitBase idx base)
    {fam : Family} (hx : x ∈ (w.rules fam).toList) :
    InitRule idx x ∨ ControllerRule idx c x ∨ (∃ r ∈ rejects, x = prohibitNonVpnRule r) ∨
      (T x ∧ x.priority = rulePriorityTethering) := by
  by_cases ht : x.priority = rulePriorityTethering
  · exact .inr (.inr (.inr ⟨h.sound.tethering fam x hx ht, ht⟩))
  have hpolicy := mem_policy_rule.mpr ⟨hx, ht⟩
  rw [h.balance fam] at hpolicy
  rcases Multiset.mem_add.mp hpolicy with hrest | hreject
  · rcases Multiset.mem_add.mp hrest with hinit | hctrl
    · exact .inl (hbase fam x hinit)
    · exact .inr (.inl (h.controllerRule hctrl))
  obtain ⟨r, hr, heq⟩ := Multiset.mem_map.mp hreject
  cases heq
  exact .inr (.inr (.inl ⟨r, hr, rfl⟩))

end

/-! ## Priorities -/

theorem InitRule.priority_mem (h : InitRule idx x) :
    x.priority ∈ [0, 10000, 10500, 13000, 14000, 15000, 16000, 17000, 32000] := by
  rcases h with hzero | hinit | hdummy
  · exact hzero ▸ mem_cons_self
  · have hmem : x.priority ∈ [15000, 16000, 10000, 13000, 17000, 32000] :=
      mem_map_of_mem (f := Rule.priority) hinit
    simp only [mem_cons, not_mem_nil, or_false] at hmem ⊢
    omega
  · have hmem : x.priority ∈ [10500, 14000] := mem_map_of_mem (f := Rule.priority) hdummy
    simp only [mem_cons, not_mem_nil, or_false] at hmem ⊢
    omega

theorem InitRule.priority_ne {n : Nat} (h : InitRule idx x)
    (hn : n ∉ [0, 10000, 10500, 13000, 14000, 15000, 16000, 17000, 32000]) : x.priority ≠ n :=
  fun heq => hn (heq ▸ h.priority_mem)

theorem ControllerRule.priority_ne (h : ControllerRule idx c x) :
    x.priority ≠ rulePriorityProhibitNonVpn ∧ x.priority ≠ rulePriorityTethering := by
  rw [rulePriorityProhibitNonVpn, rulePriorityTethering]
  cases h with
  | physical hk hi hx =>
    have := physicalRules_priority hx
    omega
  | default hk hi hd hx =>
    have := defaultRules_priority hx
    omega
  | @users k v i r _ hk hi hr hne hx =>
    have := (vpnRule_of_mem_uid hne hx).priority_eq
    have := vpnPriority_eq v.mSecure
    omega
  | @virtual k v i _ hk hi hx =>
    have := (vpnRule_of_mem_nonUid hx).priority_eq
    have := vpnPriority_eq v.mSecure
    omega
  | @«local» k l i _ hk hi hx =>
    have hmem : x.priority ∈ [10500, 14000] := mem_map_of_mem (f := Rule.priority) hx
    simp only [mem_cons, not_mem_nil, or_false] at hmem
    omega

end

end Netd
