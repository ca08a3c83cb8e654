import Netd.Policy.Items
import Netd.Server.Network

/-!
# What an interface has in the policy

The items of an interface are a function of the network it is in (`physicalItems`, `defaultItems`,
`virtualUidItems`, `virtualNonUidItems`, `localItems`). This module says for each call of a
network on the routing layer which of these it replaces.
-/

namespace Netd

open List RouteController Fwmark Option PrioList

/-! ## Calls that leave the policy alone -/

/-- The state is sound and its policy is `V`. -/
def Steady (idx : String → Nat) (T : Rule → Prop) (V : Family → Multiset Item) (w : Routing) :
    Prop :=
  Sound idx T w ∧ ∀ fam, policy w fam = V fam

section

variable {idx : String → Nat} {T : Rule → Prop} {V : Family → Multiset Item} {w w' : Routing}

theorem Steady.of_same (h : Steady idx T V w) (hnum : Numbered idx w') (hsame : SameKernel w w') :
    Steady idx T V w' := by
  refine ⟨⟨hnum, fun fam x hx => h.1.tethering fam x (hsame.rules ▸ hx)⟩, fun fam => ?_⟩
  rw [policy, hsame.rules, hsame.mangle]
  exact h.2 fam

theorem withTable_steady {interface : String} {k : Nat → Call Routing}
    (hk : ∀ t, Call.Keeps (Steady idx T V) (k t)) :
    Call.Keeps (Steady idx T V) (withTable interface k) :=
  withTable_keeps (fun _ hw => hw.1.numbered) (fun _ _ hw => hw.of_same) (hk _)

theorem syscall_steady {effect : Call Routing} (h : Call.Keeps (Steady idx T V) effect) :
    Call.Keeps (Steady idx T V) (Routing.syscall effect) :=
  syscall_keeps (fun _ _ hw => hw.of_same (hw.1.numbered.of_same rfl rfl) ⟨rfl, rfl⟩) h

theorem sendRouteRequest_steady : Call.Keeps (Steady idx T V) sendRouteRequest :=
  syscall_steady (Call.keeps_done _)

theorem modifyRoute_steady (add : Bool) (interface : String)
    (tableType : RouteController.TableType) :
    Call.Keeps (Steady idx T V) (modifyRoute add interface tableType) := by
  have hreq : Call.Keeps (Steady idx T V) fun w =>
      if (sendRouteRequest w).1 ≠ 0 ∧
          ¬ (add = true ∧ (sendRouteRequest w).1 = -Errno.eexist) then
        ((sendRouteRequest w).1, (sendRouteRequest w).2)
      else (0, (sendRouteRequest w).2) := by
    intro w hw
    dsimp only
    split
    · exact sendRouteRequest_steady w hw
    · exact sendRouteRequest_steady w hw
  rw [modifyRoute]
  by_cases htype : tableType = .interface
  · rw [if_pos htype]
    exact withTable_steady fun _ => hreq
  · rw [if_neg htype]
    exact hreq

theorem flushRoutes_steady (interface : String) :
    Call.Keeps (Steady idx T V) (flushRoutes interface) := by
  refine withTable_steady fun _ w hw => ?_
  have hsent := sendRouteRequest_steady w hw
  dsimp only
  split
  · refine hsent.of_same ⟨hsent.1.numbered.index, fun i t hi ht => ?_⟩ ⟨rfl, rfl⟩
    exact hsent.1.numbered.table i t hi (OrdMap.find?_of_erase ht).2
  · exact hsent

theorem Steady.delete_tethering {q : RuleRequest} {fam : Family} (h : Steady idx T V w)
    (hq : q.priority = rulePriorityTethering) :
    Steady idx T V (w.setRules fam ((w.rules fam).delRule q).2) := by
  have hrules : ∀ fam', (w.setRules fam ((w.rules fam).delRule q).2).rules fam' = w.rules fam' ∨
      (w.setRules fam ((w.rules fam).delRule q).2).rules fam' =
        (w.rules fam').eraseFirst q.selects := by
    intro fam'
    by_cases hfam : fam' = fam
    · subst hfam
      rw [Routing.setRules]
      dsimp only
      rw [Function.update_self, FibRules.delRule]
      split
      · exact .inr rfl
      · exact .inl rfl
    · exact .inl (Function.update_of_ne hfam ..)
  refine ⟨⟨h.1.numbered.of_same rfl rfl, fun fam' x hx => h.1.tethering fam' x ?_⟩, fun fam' => ?_⟩
  · rcases hrules fam' with hsame | herase
    · rwa [hsame] at hx
    · rw [herase] at hx
      exact mem_of_mem_eraseFirst hx
  · rw [← h.2 fam', policy, policy]
    refine congrArg (fun M => Multiset.map Item.rule M + _) ?_
    rcases hrules fam' with hsame | herase
    · rw [hsame]
    rw [herase]
    cases hf : (w.rules fam').toList.find? q.selects with
    | none =>
      have hnone : (w.rules fam').eraseFirst q.selects = w.rules fam' := by
        have := eraseP_of_forall_not (List.find?_eq_none.mp hf)
        rw [eraseFirst]
        congr
      rw [hnone]
    | some a =>
      have hprio : a.priority = rulePriorityTethering :=
        ((RuleRequest.selects_iff.mp (List.find?_some hf)).1).symm.trans hq
      rw [bag_eraseFirst hf, Multiset.filter_cons_of_neg
        (p := fun r : Rule => r.priority ≠ rulePriorityTethering) _ (not_not.mpr hprio)]

section

variable (inputInterface : String)

theorem deleteTethering_steady : Call.Keeps (Steady idx T V)
      (modifyIpRule .delRule rulePriorityTethering .toTbl 0 0 0
        (some inputInterface) none invalidUid invalidUid) :=
  modifyIpRule_keeps fun _ _ => syscall_steady fun _ hw => hw.delete_tethering rfl

theorem clearTetheringLoop_steady (fuel : Nat) :
    Call.Keeps (Steady idx T V) (clearTetheringLoop inputInterface fuel) := by
  induction fuel with
  | zero => exact Call.keeps_fail _ _
  | succ fuel ih =>
    intro w hw
    have hdel := deleteTethering_steady inputInterface w hw
    simp only [clearTetheringLoop]
    split
    · exact ih _ hdel
    · exact hdel

theorem clearTetheringRules_steady :
    Call.Keeps (Steady idx T V) (clearTetheringRules inputInterface) := by
  intro w hw
  have hloop := clearTetheringLoop_steady inputInterface ((w.rules .inet).toList.length + 1) w hw
  simp only [clearTetheringRules]
  split
  · exact hloop
  · exact hloop

end

end

/-! ## Requests for one rule of an interface -/

theorem Fwmark.intValue_ne_zero {m : Fwmark} (h : m ≠ {}) : m.intValue ≠ 0 := by
  exact fun heq => h (intValue_inj.mp heq)

variable {table : Nat} {x : Rule} {netId priority : Nat} {f k : Fwmark} {iif oif : Option String}
  {d : Rule} {interface : String} {permission : Permission} {vpns : List Nat} {r : UidRangeParcel}

/-- Rules that only differ in their marks are told apart by a request that has a
mask. -/
theorem lookupRule_eq_of_selects {f' k' : Fwmark} {u : Option UidRangeParcel} (hk : k ≠ {})
    (h : (lookupRule priority table f k iif oif u).selects
      (lookupRule priority table f' k' iif oif u) = true) :
    lookupRule priority table f' k' iif oif u = lookupRule priority table f k iif oif u := by
  obtain ⟨hf, hm⟩ := (Rule.selects_iff.mp h).2.2.2.1 (intValue_ne_zero hk)
  rw [intValue_inj.mp hf, intValue_inj.mp hm]

/-- Rules that only differ in their uid ranges are told apart by a request with a range. -/
theorem lookupRule_eq_of_selects_uid {u : UidRangeParcel} {u' : Option UidRangeParcel}
    (h : (lookupRule priority table f k iif oif (some u)).selects
      (lookupRule priority table f k iif oif u') = true) :
    lookupRule priority table f k iif oif u' = lookupRule priority table f k iif oif (some u) := by
  have hu : u' = some u := (Rule.selects_iff.mp h).2.2.2.2.2.2 u rfl
  rw [hu]

theorem eq_of_selects_of_nodup {rs : List Rule} (hnd : (rs.map Rule.priority).Nodup) (hd : d ∈ rs)
    (hx : x ∈ rs) (h : d.selects x = true) : x = d :=
  inj_on_of_nodup_map hnd hx hd (Rule.selects_priority h)

/-! ### Physical interfaces -/

def defaultRules (vpns : List Nat) (table : Nat) (permission : Permission) : List Rule :=
  defaultNetworkRule table permission :: vpns.map fun vpn => vpnFallthroughRule vpn table permission

theorem physicalRules_priorities (netId : Nat) (interface : String) (table : Nat)
    (permission : Permission) :
    (physicalRules netId interface table permission).map Rule.priority =
      [13000, 10500, 14000] ++ if permission = .none then [19000] else [] := by
  cases permission <;> rfl

theorem physicalRules_nodup (netId : Nat) (interface : String) (table : Nat)
    (permission : Permission) :
    ((physicalRules netId interface table permission).map Rule.priority).Nodup := by
  rw [physicalRules_priorities]
  cases permission <;> decide

theorem physicalRules_priority (h : x ∈ physicalRules netId interface table permission) :
    x.priority = 13000 ∨ x.priority = 10500 ∨ x.priority = 14000 ∨ x.priority = 19000 := by
  have hmem := mem_map_of_mem (f := Rule.priority) h
  rw [physicalRules_priorities] at hmem
  cases permission with
  | none => simpa using hmem
  | network | system =>
    have h3 : x.priority = 13000 ∨ x.priority = 10500 ∨ x.priority = 14000 := by simpa using hmem
    tauto

theorem defaultRules_priority (h : x ∈ defaultRules vpns table permission) :
    x.priority = 22000 ∨ x.priority = 21000 := by
  rcases mem_cons.mp h with rfl | hmem
  · exact .inl rfl
  · obtain ⟨v, _, rfl⟩ := mem_map.mp hmem
    exact .inr rfl

/-- A request for a default or fallthrough rule selects no other, also among those
of another permission. -/
theorem defaultRules_unique {vpns' : List Nat} {p q : Permission}
    (hd : d ∈ defaultRules vpns table p) (hx : x ∈ defaultRules vpns' table q)
    (h : d.selects x = true) : x = d := by
  have hmask : ∀ e b, ({ netId := fwmarkNetIdMask, explicitlySelected := e, permission := b } :
      Fwmark) ≠ {} := fun e b heq =>
    absurd (congrArg netId heq) (show fwmarkNetIdMask ≠ 0 by decide)
  have hprio := Rule.selects_priority h
  rcases mem_cons.mp hd with rfl | hd
  · rcases mem_cons.mp hx with rfl | hx
    · exact lookupRule_eq_of_selects (hmask _ _) h
    · obtain ⟨v, _, rfl⟩ := mem_map.mp hx
      exact absurd hprio (show (21000 : Nat) ≠ 22000 by decide)
  · obtain ⟨v, _, rfl⟩ := mem_map.mp hd
    rcases mem_cons.mp hx with rfl | hx
    · exact absurd hprio (show (22000 : Nat) ≠ 21000 by decide)
    · obtain ⟨v', _, rfl⟩ := mem_map.mp hx
      exact lookupRule_eq_of_selects (hmask _ _) h

/-! ### VPN interfaces -/

/-- The rules a VPN interface can have. The ranges come without the value that
stands for no range. -/
inductive VpnRule (netId : Nat) (interface : String) (table : Nat) (secure : Bool) : Rule → Prop
  | uid (r : UidRangeParcel) (hr : r.start ≠ invalidUid) :
      VpnRule netId interface table secure (vpnUidRangeRule table r.start r.stop secure)
  | explicit (r : UidRangeParcel) (hr : r.start ≠ invalidUid) :
      VpnRule netId interface table secure (explicitNetworkRule netId table .none r.start r.stop)
  | output (r : UidRangeParcel) (hr : r.start ≠ invalidUid) :
      VpnRule netId interface table secure
        (outputInterfaceRule interface table .none r.start r.stop)
  | toLocal : VpnRule netId interface table secure (vpnOutputToLocalRule interface)
  | system : VpnRule netId interface table secure (vpnSystemPermissionRule netId table secure)

theorem uidAttr_of_ne {s e : Uid} (h : s ≠ invalidUid) : uidAttr s e = some ⟨s, e⟩ := if_pos h

/-- A range that is a range has three rules. -/
theorem virtualUidRules_of_ne {secure : Bool} (hr : r.start ≠ invalidUid) :
    virtualUidRules netId interface table secure r =
      [vpnUidRangeRule table r.start r.stop secure,
        explicitNetworkRule netId table .none r.start r.stop,
        outputInterfaceRule interface table .none r.start r.stop] := by
  rw [virtualUidRules, outputInterfaceRules, if_neg fun h => hr h.1]
  rfl

section

variable {netId : Nat} {interface : String} {table : Nat} {secure : Bool} {d x : Rule}

theorem vpnRule_of_mem_uid (hr : r.start ≠ invalidUid)
    (h : x ∈ virtualUidRules netId interface table secure r) :
    VpnRule netId interface table secure x := by
  rw [virtualUidRules_of_ne hr] at h
  simp only [mem_cons, not_mem_nil, or_false] at h
  rcases h with rfl | rfl | rfl
  · exact .uid r hr
  · exact .explicit r hr
  · exact .output r hr

theorem vpnRule_of_mem_nonUid (h : x ∈ virtualNonUidRules netId interface table secure) :
    VpnRule netId interface table secure x := by
  simp only [virtualNonUidRules, mem_cons, not_mem_nil, or_false] at h
  rcases h with rfl | rfl | rfl
  · exact .toLocal
  · exact .system
  · exact .explicit ⟨uidRoot, uidRoot⟩ (by decide)

theorem VpnRule.priority_eq (h : VpnRule netId interface table secure x) :
    x.priority = vpnPriority secure ∨ x.priority = 13000 ∨ x.priority = 14000 ∨
      x.priority = 11000 := by
  cases h with
  | uid r hr => exact .inl rfl
  | explicit r hr => exact .inr (.inl rfl)
  | output r hr => exact .inr (.inr (.inl rfl))
  | toLocal => exact .inr (.inr (.inr rfl))
  | system => exact .inl rfl

theorem vpnPriority_eq (secure : Bool) :
    vpnPriority secure = 12000 ∨ vpnPriority secure = 20000 := by
  cases secure
  · exact .inr rfl
  · exact .inl rfl

theorem VpnRule.priority_ne (h : VpnRule netId interface table secure x) :
    x.priority ≠ 0 ∧ x.priority ≠ rulePriorityTethering := by
  have hp := h.priority_eq
  have hv := vpnPriority_eq secure
  rw [rulePriorityTethering]
  omega

theorem VpnRule.unique (hd : VpnRule netId interface table secure d)
    (hx : VpnRule netId interface table secure x) (h : d.selects x = true) : x = d := by
  have hother : ∀ p ∈ [11000, 13000, 14000], p ≠ vpnPriority secure := by
    rcases vpnPriority_eq secure with heq | heq <;> simp [heq]
  have hprio := Rule.selects_priority h
  obtain ⟨_, _, _, hmark, _, _, huid⟩ := Rule.selects_iff.mp h
  cases hd with
  | uid r hr =>
    cases hx with
    | uid r' hr' =>
      rw [vpnUidRangeRule, vpnUidRangeRule, uidAttr_of_ne hr] at h ⊢
      exact lookupRule_eq_of_selects_uid h
    | system => cases huid _ (uidAttr_of_ne hr)
    | explicit r' hr' => exact absurd hprio (hother 13000 (by simp))
    | output r' hr' => exact absurd hprio (hother 14000 (by simp))
    | toLocal => exact absurd hprio (hother 11000 (by simp))
  | explicit r hr =>
    cases hx with
    | explicit r' hr' =>
      rw [explicitNetworkRule, explicitNetworkRule, uidAttr_of_ne hr] at h ⊢
      exact lookupRule_eq_of_selects_uid h
    | uid r' hr' | system => exact absurd hprio.symm (hother 13000 (by simp))
    | output r' hr' | toLocal => cases hprio
  | output r hr =>
    cases hx with
    | output r' hr' =>
      rw [outputInterfaceRule, outputInterfaceRule, uidAttr_of_ne hr] at h ⊢
      exact lookupRule_eq_of_selects_uid h
    | uid r' hr' | system => exact absurd hprio.symm (hother 14000 (by simp))
    | explicit r' hr' | toLocal => cases hprio
  | toLocal =>
    cases hx with
    | toLocal => rfl
    | uid r' hr' | system => exact absurd hprio.symm (hother 11000 (by simp))
    | explicit r' hr' | output r' hr' => cases hprio
  | system =>
    cases hx with
    | system => rfl
    | uid r' hr' =>
      -- the mask of a system rule covers the netId, the mask of a uid rule does not
      obtain ⟨_, hmask⟩ := hmark (intValue_ne_zero fun heq =>
        absurd (congrArg Fwmark.netId heq) (show fwmarkNetIdMask ≠ 0 by decide))
      have hnet := congrArg Fwmark.netId (Fwmark.intValue_inj.mp hmask)
      cases secure
      · exact absurd hnet (show (0 : BitVec 16) ≠ fwmarkNetIdMask by decide)
      · exact absurd hnet (show (0 : BitVec 16) ≠ fwmarkNetIdMask by decide)
    | explicit r' hr' => exact absurd hprio (hother 13000 (by simp))
    | output r' hr' => exact absurd hprio (hother 14000 (by simp))
    | toLocal => exact absurd hprio (hother 11000 (by simp))

end

/-! ## Whose rule it is -/

/-- Two interfaces never have the same number. -/
def DistinctNumbers (idx : String → Nat) : Prop := ∀ i j, idx i = idx j → idx i ≠ 0 → i = j

/-- The rule names no interface but `j`. -/
structure Rule.OfInterface (idx : String → Nat) (j : String) (x : Rule) : Prop where
  table : x.table = tableOf idx j ∨ x.table = routeTableLocalNetwork
  oif : ∀ o, x.oif = some o → o = j
  iif : x.priority = rulePriorityVpnOutputToLocal → x.iif = some j

section

variable {idx : String → Nat} {i j : String} {x : Rule}

theorem Rule.OfInterface.not_about (h : x.OfInterface idx j) (hidx : DistinctNumbers idx)
    (hij : i ≠ j) : ¬ x.About idx i := by
  rintro ⟨_, _, ⟨hi, ht⟩ | ho | ⟨hp, hi⟩⟩
  · rcases h.table with hj | hl
    · exact hij (hidx i j (Nat.add_right_cancel (ht.symm.trans hj)) hi)
    have : routeTableLocalNetwork = idx i + routeTableOffsetFromIndex := hl.symm.trans ht
    rw [routeTableLocalNetwork, routeTableOffsetFromIndex] at this
    omega
  · exact hij (h.oif i ho)
  · exact hij (some.inj (hi.symm.trans (h.iif hp)))

variable {netId : Nat} {permission : Permission} {secure : Bool} {vpns : List Nat}
  {interface : String}

theorem mem_physicalRules : x ∈ physicalRules netId interface table permission ↔
      x = explicitNetworkRule netId table permission invalidUid invalidUid ∨
      x = rootOverrideRule interface table ∨
      x = outputInterfaceRule interface table permission invalidUid invalidUid ∨
      (permission = .none ∧ x = implicitNetworkRule netId table) := by
  rw [physicalRules, outputInterfaceRules, if_pos ⟨rfl, rfl⟩]
  cases permission <;> simp

theorem mem_localRules : x ∈ localRules interface ↔
      x = rootOverrideRule interface routeTableLocalNetwork ∨
      x = outputInterfaceRule interface routeTableLocalNetwork .none invalidUid invalidUid := by
  rw [localRules, outputInterfaceRules, if_pos ⟨rfl, rfl⟩]
  simp

theorem ofInterface_physicalRules
    (h : x ∈ physicalRules netId j (tableOf idx j) permission) : x.OfInterface idx j := by
  rcases mem_physicalRules.mp h with rfl | rfl | rfl | ⟨_, rfl⟩
  · exact ⟨.inl rfl, fun o ho => (by cases ho), fun hp => (by cases hp)⟩
  · exact ⟨.inl rfl, fun o ho => (some.inj ho).symm, fun hp => (by cases hp)⟩
  · exact ⟨.inl rfl, fun o ho => (some.inj ho).symm, fun hp => (by cases hp)⟩
  · exact ⟨.inl rfl, fun o ho => (by cases ho), fun hp => (by cases hp)⟩

theorem ofInterface_defaultRules (h : x ∈ defaultRules vpns (tableOf idx j) permission) :
    x.OfInterface idx j := by
  rcases mem_cons.mp h with rfl | hmem
  · exact ⟨.inl rfl, fun o ho => (by cases ho), fun hp => (by cases hp)⟩
  · obtain ⟨v, _, rfl⟩ := mem_map.mp hmem
    exact ⟨.inl rfl, fun o ho => (by cases ho), fun hp => (by cases hp)⟩

theorem ofInterface_localRules (h : x ∈ localRules j) : x.OfInterface idx j := by
  rcases mem_localRules.mp h with rfl | rfl
  · exact ⟨.inr rfl, fun o ho => (some.inj ho).symm, fun hp => (by cases hp)⟩
  · exact ⟨.inr rfl, fun o ho => (some.inj ho).symm, fun hp => (by cases hp)⟩

theorem VpnRule.ofInterface (h : VpnRule netId j (tableOf idx j) secure x) :
    x.OfInterface idx j := by
  have hv := vpnPriority_eq secure
  cases h with
  | uid r hr =>
    refine ⟨.inl rfl, fun o ho => (by cases ho), fun hp => ?_⟩
    replace hp : vpnPriority secure = 11000 := hp
    omega
  | explicit r hr => exact ⟨.inl rfl, fun o ho => (by cases ho), fun hp => (by cases hp)⟩
  | output r hr =>
    exact ⟨.inl rfl, fun o ho => (some.inj ho).symm, fun hp => (by cases hp)⟩
  | toLocal => exact ⟨.inr rfl, fun o ho => (by cases ho), fun _ => rfl⟩
  | system =>
    refine ⟨.inl rfl, fun o ho => (by cases ho), fun hp => ?_⟩
    replace hp : vpnPriority secure = 11000 := hp
    omega

theorem about_physicalRules (hi : idx i ≠ 0)
    (h : x ∈ physicalRules netId i (tableOf idx i) permission) : x.About idx i := by
  have hp := physicalRules_priority h
  refine ⟨by omega, by rw [rulePriorityTethering]; omega, .inl ⟨hi, ?_⟩⟩
  rcases mem_physicalRules.mp h with rfl | rfl | rfl | ⟨_, rfl⟩
  · rfl
  · rfl
  · rfl
  · rfl

theorem about_defaultRules (hi : idx i ≠ 0)
    (h : x ∈ defaultRules vpns (tableOf idx i) permission) : x.About idx i := by
  have hp := defaultRules_priority h
  refine ⟨by omega, by rw [rulePriorityTethering]; omega, .inl ⟨hi, ?_⟩⟩
  rcases mem_cons.mp h with rfl | hmem
  · rfl
  · obtain ⟨v, _, rfl⟩ := mem_map.mp hmem
    rfl

theorem about_localRules (h : x ∈ localRules i) : x.About idx i := by
  rcases mem_localRules.mp h with rfl | rfl
  · exact ⟨show (10500 : Nat) ≠ 0 by decide, show (10500 : Nat) ≠ 18000 by decide, .inr (.inl rfl)⟩
  · exact ⟨show (14000 : Nat) ≠ 0 by decide, show (14000 : Nat) ≠ 18000 by decide, .inr (.inl rfl)⟩

theorem VpnRule.about (hi : idx i ≠ 0) (h : VpnRule netId i (tableOf idx i) secure x) :
    x.About idx i := by
  refine ⟨h.priority_ne.1, h.priority_ne.2, ?_⟩
  cases h with
  | uid r hr | explicit r hr | output r hr => exact .inl ⟨hi, rfl⟩
  | toLocal => exact .inr (.inr ⟨rfl, rfl⟩)
  | system => exact .inl ⟨hi, rfl⟩

end

end Netd
