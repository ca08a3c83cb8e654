import Mathlib.Data.Multiset.Bind
import Netd.Policy.Interfaces

/-!
# What the calls of a network replace

One lemma for each call that a network makes on the routing layer: which items of
its interface the call puts into the policy or takes out. Additions need nothing
and own nothing. Removals own what is about the interface.
-/

namespace Netd

open RouteController List Replaces Item VpnRule Rule Call

/-! ## The items of an interface -/

section

variable (idx : String → Nat) (netId : Nat) (i : String)

def physicalItems (permission : Permission) : Multiset Item :=
  items (physicalRules netId i (tableOf idx i) permission) [incomingPacketMark netId i permission]

def defaultItems (vpns : List Nat) (permission : Permission) : Multiset Item :=
  items (defaultRules vpns (tableOf idx i) permission) []

def virtualUidItems (secure : Bool) (ranges : Multiset UidRangeParcel) : Multiset Item :=
  ranges.bind fun r => items (virtualUidRules netId i (tableOf idx i) secure r) []

def virtualNonUidItems (secure : Bool) : Multiset Item :=
  items (virtualNonUidRules netId i (tableOf idx i) secure) [incomingPacketMark netId i .none]

def localItems : Multiset Item := items (localRules i) [incomingPacketMark netId i .none]

end

section

variable {idx : String → Nat} {T : Rule → Prop} {own : Item → Prop} {P : Multiset Item}
  {netId : Nat} {i : String} {permission : Permission} {secure : Bool} {vpns : List Nat}

theorem virtualUidItems_coe (ranges : List UidRangeParcel) :
    virtualUidItems idx netId i secure ↑ranges =
      items (ranges.flatMap (virtualUidRules netId i (tableOf idx i) secure)) [] := by
  induction ranges with
  | nil => rfl
  | cons r rs ih =>
    rw [virtualUidItems] at ih ⊢
    rw [← Multiset.cons_coe, Multiset.cons_bind, ih, flatMap_cons]
    exact (items_append _ _ [] []).symm

theorem virtualUidItems_add (A B : Multiset UidRangeParcel) :
    virtualUidItems idx netId i secure (A + B) =
      virtualUidItems idx netId i secure A + virtualUidItems idx netId i secure B :=
  Multiset.add_bind ..

variable {x : Rule} {u : UidRanges} {A : Multiset UidRangeParcel} {w w' : Routing} {vpn : Nat}
  {r : UidRangeParcel} {k : Nat → Call Routing}

theorem mem_virtualUidItems : rule x ∈ virtualUidItems idx netId i secure A ↔
      ∃ r ∈ A, x ∈ virtualUidRules netId i (tableOf idx i) secure r := by
  rw [virtualUidItems, Multiset.mem_bind]
  exact exists_congr fun r => and_congr Iff.rfl mem_items_rule

theorem vpnRule_of_mem_items (hA : ∀ r ∈ A, r.start ≠ invalidUid) (h : rule x ∈
      virtualUidItems idx netId i secure A + virtualNonUidItems idx netId i secure) :
    VpnRule netId i (tableOf idx i) secure x := by
  cases Multiset.mem_add.mp h with
  | inl huid =>
    obtain ⟨r, hr, hx⟩ := mem_virtualUidItems.mp huid
    exact vpnRule_of_mem_uid (hA r hr) hx
  | inr hnon => exact vpnRule_of_mem_nonUid (mem_items_rule.mp hnon)

theorem withTable_idx (hw : Sound idx T w) (h : withTable i k w = (0, w')) : idx i ≠ 0 :=
  (withTable_spec hw.numbered h).1

theorem withTable_andThen_idx {m : Call Routing} (hw : Sound idx T w)
    (h : (withTable i k).andThen m w = (0, w')) : idx i ≠ 0 := by
  obtain ⟨t, ht, _⟩ := andThen_ok.mp h
  exact withTable_idx hw ht

/-! ## Physical networks -/

theorem addInterfaceToPhysicalNetwork_replaces :
    Replaces policy (Sound idx T) own P (P + physicalItems idx netId i permission)
      (addInterfaceToPhysicalNetwork netId i permission) := by
  refine (modifyPhysicalNetwork_performs idx netId i permission true).installs fun r hr => ?_
  have hp := physicalRules_priority hr
  rw [rulePriorityTethering]
  omega

/-- A request for a rule of a physical interface selects no other rule of it. -/
theorem physicalRules_unique {ms : List MarkRule} {d : Rule}
    (hP : ∀ x, rule x ∈ P → x.priority = 22000 ∨ x.priority = 21000)
    (hd : d ∈ physicalRules netId i (tableOf idx i) permission)
    (hx : rule x ∈ P + items (physicalRules netId i (tableOf idx i) permission) ms)
    (hsel : d.selects x = true) : x = d := by
  cases Multiset.mem_add.mp hx with
  | inl hxP =>
    have hxp := hP x hxP
    have hdp := physicalRules_priority hd
    have := selects_priority hsel
    omega
  | inr hx => exact eq_of_selects_of_nodup (physicalRules_nodup ..) hd (mem_items_rule.mp hx) hsel

theorem removeInterfaceFromPhysicalNetwork_replaces :
    Replaces policy (Sound idx T) (About idx i) (physicalItems idx netId i permission) 0
      (removeInterfaceFromPhysicalNetwork netId i permission) := by
  refine of_fact (fun w w' hw h => withTable_andThen_idx hw h) fun hi => ?_
  have hrem : Replaces policy (Sound idx T) (About idx i)
      (0 + physicalItems idx netId i permission)
      0 (modifyPhysicalNetwork netId i permission false) :=
    (modifyPhysicalNetwork_performs idx netId i permission false).removes
      (requestsOwn_about fun d hd => about_physicalRules hi hd)
      fun d hd x hx => physicalRules_unique (fun x hx => absurd hx (Multiset.notMem_zero _)) hd hx
  exact hrem.andThen ((of_keeps fun V => flushRoutes_steady i).andThen
    (of_keeps fun V => clearTetheringRules_steady i))

/-- The permission of an interface changes. The new rules stand behind the old ones. -/
theorem modifyPhysicalNetworkPermission_replaces {new : Permission}
    (hP : ∀ x, rule x ∈ P → x.priority = 22000 ∨ x.priority = 21000) :
    Replaces policy (Sound idx T) (About idx i) (P + physicalItems idx netId i permission)
      (P + physicalItems idx netId i new)
      (modifyPhysicalNetworkPermission netId i permission new) := by
  refine of_fact (fun w w' hw h => withTable_andThen_idx hw h) fun hi => ?_
  refine ((modifyPhysicalNetwork_performs idx netId i new true).andThen
    (modifyPhysicalNetwork_performs idx netId i permission false)).swaps ?_
    (requestsOwn_about fun d hd => about_physicalRules hi hd)
    (pairwise_map.mp (physicalRules_nodup ..))
    fun d hd x hx => physicalRules_unique hP hd hx
  intro a ha
  have hp := physicalRules_priority ha
  rw [rulePriorityTethering]
  omega

/-! ### Default rules -/

theorem addToDefault_performs : Performs idx (addToDefault api vpns i permission)
      ((defaultRules vpns (tableOf idx i) permission).map (.ofAdd true)) [] :=
  (modifyDefaultNetwork_performs idx i permission true).andThen
    (.eachRule (fun vpn => modifyVpnFallthroughRule_performs idx vpn i permission true) vpns)

theorem removeFromDefault_performs : Performs idx (removeFromDefault api vpns i permission)
      ((defaultRules vpns (tableOf idx i) permission).map (.ofAdd false)) [] :=
  (modifyDefaultNetwork_performs idx i permission false).andThen
    (.eachRule (fun vpn => modifyVpnFallthroughRule_performs idx vpn i permission false) vpns)

theorem addToDefault_replaces :
    Replaces policy (Sound idx T) own P (P + defaultItems idx i vpns permission)
      (addToDefault api vpns i permission) := by
  refine addToDefault_performs.installsRules fun r hr => ?_
  have hp := defaultRules_priority hr
  rw [rulePriorityTethering]
  omega

/-- The rules beside a default rule: those of the interface itself, and default
rules of any permission. -/
def BesideDefault (idx : String → Nat) (i : String) (P : Multiset Item) : Prop :=
  ∀ x, Item.rule x ∈ P →
    (x.priority = 13000 ∨ x.priority = 10500 ∨ x.priority = 14000 ∨ x.priority = 19000) ∨
      ∃ vpns q, x ∈ defaultRules vpns (tableOf idx i) q

theorem besideDefault_physicalItems : BesideDefault idx i (physicalItems idx netId i permission) :=
  fun _ hx => .inl (physicalRules_priority (mem_items_rule.mp hx))

theorem besideDefault_defaultItems : BesideDefault idx i (defaultItems idx i vpns permission) :=
  fun _ hx => .inr ⟨vpns, permission, mem_items_rule.mp hx⟩

section

variable (hP : BesideDefault idx i P)
include hP

theorem BesideDefault.add {Q : Multiset Item}
    (hQ : BesideDefault idx i Q) : BesideDefault idx i (P + Q) := by
  intro x hx
  cases Multiset.mem_add.mp hx with
  | inl h => exact hP x h
  | inr h => exact hQ x h

theorem BesideDefault.unique {d : Rule} (hd : d ∈ defaultRules vpns (tableOf idx i) permission)
    (hx : rule x ∈ P) (hsel : d.selects x = true) : x = d := by
  rcases hP x hx with hprio | ⟨vpns', q, hx⟩
  · have hdp := defaultRules_priority hd
    have := selects_priority hsel
    omega
  · exact defaultRules_unique hd hx hsel

theorem removeFromDefault_replaces :
    Replaces policy (Sound idx T) (About idx i) (P + defaultItems idx i vpns permission) P
      (removeFromDefault api vpns i permission) := by
  refine of_fact (fun w w' hw h => withTable_andThen_idx hw h) fun hi => ?_
  exact removeFromDefault_performs.removesRules
    (requestsOwn_about fun d hd => about_defaultRules hi hd)
    fun d hd x hx => (hP.add besideDefault_defaultItems).unique hd hx

end

/-- The default rules for one more VPN. -/
theorem defaultItems_perm {vpns' : List Nat} (h : vpns'.Perm (vpn :: vpns)) :
    defaultItems idx i vpns' permission =
      defaultItems idx i vpns permission +
        items [vpnFallthroughRule vpn (tableOf idx i) permission] [] := by
  have hperm : (defaultRules vpns' (tableOf idx i) permission).Perm
      (defaultRules vpns (tableOf idx i) permission ++
        [vpnFallthroughRule vpn (tableOf idx i) permission]) := by
    refine ((h.map _).cons _).trans ?_
    exact (perm_append_singleton ..).symm.cons _
  rw [defaultItems, defaultItems, ← items_append]
  exact congrArg (· + _) (Multiset.coe_eq_coe.mpr (hperm.map rule))

theorem addVirtualNetworkFallthrough_replaces : Replaces policy (Sound idx T) own P
      (P + items [vpnFallthroughRule vpn (tableOf idx i) permission] [])
      (addVirtualNetworkFallthrough vpn i permission) := by
  have hadd : Performs idx (addVirtualNetworkFallthrough vpn i permission)
      ([vpnFallthroughRule vpn (tableOf idx i) permission].map .add) [] :=
    modifyVpnFallthroughRule_performs idx vpn i permission true
  refine hadd.installsRules fun r hr => ?_
  cases mem_singleton.mp hr
  exact show (21000 : Nat) ≠ 18000 by decide

theorem removeVirtualNetworkFallthrough_replaces (hP : BesideDefault idx i P) :
    Replaces policy (Sound idx T) (About idx i)
      (P + items [vpnFallthroughRule vpn (tableOf idx i) permission] []) P
      (removeVirtualNetworkFallthrough vpn i permission) := by
  have hdel : Performs idx (removeVirtualNetworkFallthrough vpn i permission)
      ([vpnFallthroughRule vpn (tableOf idx i) permission].map .del) [] :=
    modifyVpnFallthroughRule_performs idx vpn i permission false
  have hmem : ∀ {d}, d ∈ [vpnFallthroughRule vpn (tableOf idx i) permission] →
      d ∈ defaultRules [vpn] (tableOf idx i) permission := mem_cons_of_mem _
  have hidx : ∀ w w', Sound idx T w → removeVirtualNetworkFallthrough vpn i permission w = (0, w') →
      idx i ≠ 0 := by
    intro w w' hw h
    rw [removeVirtualNetworkFallthrough, modifyVpnFallthroughRule] at h
    exact withTable_idx hw h
  refine of_fact hidx fun hi => ?_
  refine hdel.removesRules (requestsOwn_about fun d hd => about_defaultRules hi (hmem hd))
    fun d hd x hx hsel => ?_
  refine (hP.add fun x hx => ?_).unique (hmem hd) hx hsel
  exact .inr ⟨[vpn], permission, hmem (mem_items_rule.mp hx)⟩

/-! ## Virtual networks -/

theorem virtualUidRules_priority {table : Nat} (h : x ∈ virtualUidRules netId i table secure r) :
    x.priority = vpnPriority secure ∨ x.priority = 13000 ∨ x.priority = 10500 ∨
      x.priority = 14000 := by
  rcases mem_cons.mp h with rfl | h
  · exact .inl rfl
  rcases mem_cons.mp h with rfl | h
  · exact .inr (.inl rfl)
  rcases mem_append.mp h with h | h
  · split at h
    · cases mem_singleton.mp h
      exact .inr (.inr (.inl rfl))
    · cases h
  · cases mem_singleton.mp h
    exact .inr (.inr (.inr rfl))

theorem virtualRules_not_tethering {table : Nat} {ranges : List UidRangeParcel}
    (h : x ∈ ranges.flatMap (virtualUidRules netId i table secure)) :
    x.priority ≠ rulePriorityTethering := by
  obtain ⟨r, _, hx⟩ := mem_flatMap.mp h
  have hp := virtualUidRules_priority hx
  have hv := vpnPriority_eq secure
  rw [rulePriorityTethering]
  omega

/-- The items that come and go with an interface of a VPN. -/
theorem virtualItems_eq (u : UidRanges) :
    virtualUidItems idx netId i secure u.bag + virtualNonUidItems idx netId i secure =
      items (u.getRanges.flatMap (virtualUidRules netId i (tableOf idx i) secure) ++
        virtualNonUidRules netId i (tableOf idx i) secure) [incomingPacketMark netId i .none] := by
  rw [UidRanges.bag, virtualUidItems_coe, virtualNonUidItems]
  exact (items_append _ _ [] [incomingPacketMark netId i .none]).symm

theorem vpnRule_of_mem_rules (hu : ∀ r ∈ u.bag, r.start ≠ invalidUid)
    (h : x ∈ u.getRanges.flatMap (virtualUidRules netId i (tableOf idx i) secure) ++
      virtualNonUidRules netId i (tableOf idx i) secure) :
    VpnRule netId i (tableOf idx i) secure x := by
  refine vpnRule_of_mem_items hu ?_
  rw [virtualItems_eq]
  exact mem_items_rule.mpr h

theorem addInterfaceToVirtualNetwork_replaces : Replaces policy (Sound idx T) own P
      (P + (virtualUidItems idx netId i secure u.bag + virtualNonUidItems idx netId i secure))
      (addInterfaceToVirtualNetwork netId i secure u) := by
  rw [virtualItems_eq]
  refine (modifyVirtualNetwork_performs idx netId i u secure true true).installs fun r hr => ?_
  cases mem_append.mp hr with
  | inl huid => exact virtualRules_not_tethering huid
  | inr hnon => exact (vpnRule_of_mem_nonUid hnon).priority_ne.2

theorem removeInterfaceFromVirtualNetwork_replaces (hu : ∀ r ∈ u.bag, r.start ≠ invalidUid) :
    Replaces policy (Sound idx T) (About idx i)
      (virtualUidItems idx netId i secure u.bag + virtualNonUidItems idx netId i secure) 0
      (removeInterfaceFromVirtualNetwork netId i secure u) := by
  refine of_fact (fun w w' hw h => withTable_andThen_idx hw h) fun hi => ?_
  have hrem : Replaces policy (Sound idx T) (About idx i)
      (0 + (virtualUidItems idx netId i secure u.bag + virtualNonUidItems idx netId i secure))
      0 (modifyVirtualNetwork netId i u secure false true) := by
    rw [virtualItems_eq]
    refine (modifyVirtualNetwork_performs idx netId i u secure false true).removes
      (requestsOwn_about fun d hd => (vpnRule_of_mem_rules hu hd).about hi)
      fun d hd x hx hsel => ?_
    exact unique (vpnRule_of_mem_rules hu hd)
      (vpnRule_of_mem_rules hu (mem_items_rule.mp hx)) hsel
  rw [zero_add] at hrem
  exact hrem.andThen (of_keeps fun V => flushRoutes_steady i)

/-! ### Users -/

theorem modifyVirtualNetwork_users_performs (u : UidRanges) (add : Bool) :
    Performs idx (modifyVirtualNetwork netId i u secure add false)
      ((u.getRanges.flatMap (virtualUidRules netId i (tableOf idx i) secure)).map (.ofAdd add))
      [] := by
  have h := modifyVirtualNetwork_performs idx netId i u secure add false
  rwa [if_neg Bool.false_ne_true, append_nil, if_neg Bool.false_ne_true] at h

theorem addUsersToVirtualNetwork_replaces :
    Replaces policy (Sound idx T) own P (P + virtualUidItems idx netId i secure u.bag)
      (addUsersToVirtualNetwork netId i secure u) := by
  rw [UidRanges.bag, virtualUidItems_coe]
  exact (modifyVirtualNetwork_users_performs u true).installsRules
    fun r hr => virtualRules_not_tethering hr

/-- A request with one `INVALID_UID` is refused, so after a success the ends of a range agree. -/
theorem modifyVirtualNetwork_ranges {add nonUid : Bool}
    (h : modifyVirtualNetwork netId i u secure add nonUid w = (0, w')) :
    ∀ r ∈ u.bag, uidsAgree r.start r.stop := by
  obtain ⟨_, w1, h1⟩ := withTable_ok h
  obtain ⟨w2, hranges, _⟩ := andThen_ok.mp h1
  refine each_ok_forall (fun r s s' hr => ?_) hranges
  obtain ⟨_, huid, _⟩ := andThen_ok.mp hr
  exact (modifyIpRule_inv huid).2.1

/-- Not the value that stands for no range. -/
def UidRangeParcel.NotSentinel (r : UidRangeParcel) : Prop :=
  ¬ (r.start = invalidUid ∧ r.stop = invalidUid)

instance (r : UidRangeParcel) : Decidable r.NotSentinel := inferInstanceAs (Decidable (¬ _))

theorem UidRangeParcel.NotSentinel.start_ne (h : r.NotSentinel)
    (hagree : uidsAgree r.start r.stop) : r.start ≠ invalidUid :=
  fun hs => h ⟨hs, hagree.mp hs⟩

/-- The uid range of a rule that sends users to a VPN. -/
def rangeOfItem (secure : Bool) : Item → Option UidRangeParcel
  | .rule x => if x.priority = vpnPriority secure then x.uidRange else none
  | .mark _ => none

theorem filterMap_range (hr : r.start ≠ invalidUid) :
    (items (virtualUidRules netId i (tableOf idx i) secure r) []).filterMap (rangeOfItem secure) =
      {r} := by
  have hne : ∀ n, n = 13000 ∨ n = 14000 → n ≠ vpnPriority secure := by
    intro n hn
    have hv := vpnPriority_eq secure
    omega
  have huid : rangeOfItem secure (.rule (vpnUidRangeRule (tableOf idx i) r.start r.stop secure)) =
      some r := (if_pos rfl).trans (uidAttr_of_ne hr)
  have hexpl : rangeOfItem secure
      (.rule (explicitNetworkRule netId (tableOf idx i) .none r.start r.stop)) = none :=
    if_neg (hne 13000 (.inl rfl))
  have hout : rangeOfItem secure
      (.rule (outputInterfaceRule i (tableOf idx i) .none r.start r.stop)) = none :=
    if_neg (hne 14000 (.inr rfl))
  rw [virtualUidRules_of_ne hr, items, map_nil, Multiset.coe_nil, add_zero, Multiset.filterMap_coe]
  simp only [map_cons, map_nil, filterMap_cons, filterMap_nil, huid, hexpl, hout]
  rfl

theorem filterMap_virtualUidItems (hA : ∀ r ∈ A, r.start ≠ invalidUid) :
    (virtualUidItems idx netId i secure A).filterMap (rangeOfItem secure) = A := by
  induction A using Multiset.induction_on with
  | empty => rfl
  | cons r A ih =>
    have hrest := ih fun s hs => hA s (Multiset.mem_cons_of_mem hs)
    rw [virtualUidItems] at hrest ⊢
    rw [Multiset.cons_bind, Multiset.filterMap_add, hrest,
      filterMap_range (hA r (Multiset.mem_cons_self r A)), Multiset.singleton_add]

theorem filterMap_virtualNonUidItems :
    (virtualNonUidItems idx netId i secure).filterMap (rangeOfItem secure) = 0 := by
  have hv := vpnPriority_eq secure
  have hne : ∀ n, n = 13000 ∨ n = 11000 → n ≠ vpnPriority secure := by
    intro n hn
    omega
  have hlocal : rangeOfItem secure (.rule (vpnOutputToLocalRule i)) = none :=
    if_neg (hne 11000 (.inr rfl))
  have hsys : rangeOfItem secure
      (.rule (vpnSystemPermissionRule netId (tableOf idx i) secure)) = none := if_pos rfl
  have hroot : rangeOfItem secure
      (.rule (explicitNetworkRule netId (tableOf idx i) .none uidRoot uidRoot)) = none :=
    if_neg (hne 13000 (.inl rfl))
  have hmark : rangeOfItem secure (.mark (incomingPacketMark netId i .none)) = none := rfl
  rw [virtualNonUidItems, items, Multiset.filterMap_add, Multiset.filterMap_coe,
    Multiset.filterMap_coe, virtualNonUidRules]
  simp only [map_cons, map_nil, filterMap_cons, filterMap_nil, hlocal, hsys, hroot, hmark]
  rfl

/-- Users leave a VPN. A deletion that succeeds finds its rule, so the ranges were there. -/
theorem removeUsersFromVirtualNetwork_replaces {A B : UidRanges}
    (hA : ∀ r ∈ A.bag, r.start ≠ invalidUid) (hB : ∀ r ∈ B.bag, r.NotSentinel) :
    Replaces policy (Sound idx T) (About idx i)
      (virtualUidItems idx netId i secure A.bag + virtualNonUidItems idx netId i secure)
      (virtualUidItems idx netId i secure (A.bag - B.bag) + virtualNonUidItems idx netId i secure)
      (removeUsersFromVirtualNetwork netId i secure B) := by
  have hperf : Performs idx (removeUsersFromVirtualNetwork netId i secure B)
      ((B.getRanges.flatMap (virtualUidRules netId i (tableOf idx i) secure)).map .del) [] :=
    modifyVirtualNetwork_users_performs B false
  refine ⟨fun R w w' hR hw hv hm => ?_⟩
  have hi : idx i ≠ 0 := withTable_idx hw (by
    rw [removeUsersFromVirtualNetwork, modifyVirtualNetwork] at hm
    exact hm)
  have hBne : ∀ r ∈ B.bag, r.start ≠ invalidUid := fun r hr =>
    (hB r hr).start_ne (modifyVirtualNetwork_ranges hm r hr)
  have hrule : ∀ {d}, d ∈ B.getRanges.flatMap (virtualUidRules netId i (tableOf idx i) secure) →
      VpnRule netId i (tableOf idx i) secure d := by
    intro d hd
    obtain ⟨r, hr, hx⟩ := mem_flatMap.mp hd
    exact vpnRule_of_mem_uid (hBne r hr) hx
  have howns := requestsOwn_about fun d hd => (hrule (d := d) hd).about hi
  have hle := hperf.removed_le howns
    (fun d hd x hx => unique (hrule hd) (vpnRule_of_mem_items hA hx)) hR hw hv hm
  -- read the ranges off both sides
  have hBA : B.bag ≤ A.bag := by
    replace hle : virtualUidItems idx netId i secure B.bag ≤ _ :=
      (virtualUidItems_coe B.getRanges).trans_le hle
    have hmap := Multiset.filterMap_le_filterMap (rangeOfItem secure) hle
    rwa [Multiset.filterMap_add, filterMap_virtualUidItems hA, filterMap_virtualNonUidItems,
      add_zero, filterMap_virtualUidItems hBne] at hmap
  have hsplit : virtualUidItems idx netId i secure A.bag + virtualNonUidItems idx netId i secure =
      (virtualUidItems idx netId i secure (A.bag - B.bag) + virtualNonUidItems idx netId i secure) +
        items (B.getRanges.flatMap (virtualUidRules netId i (tableOf idx i) secure)) [] := by
    rw [← virtualUidItems_coe, add_right_comm]
    refine congrArg (· + _) ?_
    exact (congrArg _ (tsub_add_cancel_of_le hBA).symm).trans (virtualUidItems_add ..)
  refine (hperf.removesRules howns fun d hd x hx => ?_).spec R w w' hR hw
    (fun fam => (hv fam).trans (congrArg _ hsplit)) hm
  rw [← hsplit] at hx
  exact unique (hrule hd) (vpnRule_of_mem_items hA hx)

/-! ## The local network -/

theorem localRules_nodup : ((localRules i).map priority).Nodup := by
  have h : (localRules i).map priority = [10500, 14000] := rfl
  rw [h]
  decide

theorem removeInterfaceFromLocalNetwork_replaces :
    Replaces policy (Sound idx T) (About idx i) (localItems netId i) 0
      (removeInterfaceFromLocalNetwork netId i) := by
  have hrem : Replaces policy (Sound idx T) (About idx i) (0 + localItems netId i) 0
      (removeInterfaceFromLocalNetwork netId i) := by
    refine (modifyLocalNetwork_performs idx netId i false).removes
      (requestsOwn_about fun d hd => about_localRules hd) fun d hd x hx => ?_
    exact eq_of_selects_of_nodup localRules_nodup hd (mem_items_rule.mp hx)
  rwa [zero_add] at hrem

end

end Netd
