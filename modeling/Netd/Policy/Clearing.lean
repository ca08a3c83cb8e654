import Netd.Policy.Controller
import Netd.Policy.Deletions

/-!
# Removing interfaces and networks

If the books are balanced, nothing fails and the tables are found, then
`removeInterfaceFromNetwork` and `destroyNetwork` return 0 and take exactly the items of the
interface, or of the network, out of the policy.
-/

namespace Netd

open OrdMap

open RouteController (api getRouteTableForInterface flushRoutes padInterfaceName)
open NetworkController List Network RouteController PhysicalNetwork Call

section

variable {idx : String → Nat} {T : Rule → Prop} {B : String → Prop} {vpns : List Nat}
  {w w' : Routing} {i : String} {R : Family → Multiset Item}

/-! ## One interface -/

variable {netId : Nat}

theorem removeInterfaceFromPhysicalNetwork_returns {permission : Permission} (hw : Fit idx T B w)
    (hi : B i) (hR : ∀ fam, ∀ x ∈ R fam, ¬ About idx i x)
    (hv : ∀ fam, policy w fam = R fam + physicalItems idx netId i permission) :
    (removeInterfaceFromPhysicalNetwork netId i permission w).1 = 0 := by
  have hrules : Achieves policy (Fit idx T B) (About idx i) (physicalItems idx netId i permission) 0
      (modifyPhysicalNetwork netId i permission false) :=
    modifyPhysicalNetwork_achieves hi
  have hcode := hrules.returns R w hR hw hv
  obtain ⟨hw1, _⟩ := hrules.spec R w _ hR hw hv (Prod.ext hcode rfl)
  have hflush := flushRoutes_returns hw1.2.calm (hw1.2.located i hi)
  have hcalm : Call.Keeps Calm (flushRoutes i) :=
    (flushRoutes_sim (respects_calm fun _ => True) trivial).keeps
  -- the name of the interface is in a rule, so it passed the check of `modifyIpRule`
  have hname : (padInterfaceName (some i)).1 = 0 := by
    have hroot : Item.rule (rootOverrideRule i (tableOf idx i)) ∈ policy w .inet := by
      rw [hv .inet]
      exact Multiset.mem_add.mpr (.inr (mem_items_rule.mpr
        (mem_physicalRules.mpr (.inr (.inl rfl)))))
    have hsend := (hw.2.tidy .inet _ (mem_policy_rule.mp hroot).1).resolve_left
      (show (10500 : Nat) ≠ 0 by decide)
    exact hsend.oif
  rw [removeInterfaceFromPhysicalNetwork, andThen, if_pos hcode, andThen, if_pos hflush]
  simp only [clearTetheringRules]
  rw [if_pos (clearTetheringLoop_code hname _ (hcalm _ hw1.2.calm))]

theorem removeInterfaceFromVirtualNetwork_returns {secure : Bool} {u : UidRanges}
    (hu : ∀ r ∈ u.bag, r.start ≠ invalidUid) (hw : Fit idx T B w) (hi : B i)
    (hR : ∀ fam, ∀ x ∈ R fam, ¬ About idx i x) (hv : ∀ fam, policy w fam = R fam +
      (virtualUidItems idx netId i secure u.bag + virtualNonUidItems idx netId i secure)) :
    (removeInterfaceFromVirtualNetwork netId i secure u w).1 = 0 := by
  have hrules : Achieves policy (Fit idx T B) (About idx i)
      (virtualUidItems idx netId i secure u.bag + virtualNonUidItems idx netId i secure) 0
      (modifyVirtualNetwork netId i u secure false true) :=
    modifyVirtualNetwork_achieves hi hu
  have hcode := hrules.returns R w hR hw hv
  obtain ⟨hw1, _⟩ := hrules.spec R w _ hR hw hv (Prod.ext hcode rfl)
  rw [removeInterfaceFromVirtualNetwork, andThen, if_pos hcode]
  exact flushRoutes_returns hw1.2.calm (hw1.2.located i hi)

/-- A default network takes the default rules of the interface out first. -/
theorem PhysicalNetwork.removeInterface_returns {n : PhysicalNetwork} (hi : i ∈ n.mInterfaces.keys)
    (hw : Fit idx T B w) (hB : B i) (hR : ∀ fam, ∀ x ∈ R fam, ¬ About idx i x)
    (hv : ∀ fam, policy w fam = R fam + interfaceItems idx vpns (.physical n) i) :
    (removeInterface api vpns i (n, w)).1 = 0 := by
  simp only [removeInterface]
  rw [if_pos (OrdMap.contains_iff.mpr hi), commit_code]
  rw [interfaceItems] at hv
  by_cases hd : n.mIsDefault = true
  · rw [if_pos hd] at hv ⊢
    have hdefault : Achieves policy (Fit idx T B) (About idx i)
        (physicalItems idx n.mNetId i n.mPermission + defaultItems idx i vpns n.mPermission)
        (physicalItems idx n.mNetId i n.mPermission)
        (removeFromDefault api vpns i n.mPermission) :=
      removeFromDefault_achieves hB besideDefault_physicalItems
    rw [add_comm (defaultItems ..)] at hv
    have hcode := hdefault.returns R w hR hw hv
    obtain ⟨hw1, hv1⟩ := hdefault.spec R w _ hR hw hv (Prod.ext hcode rfl)
    rw [andThen, if_pos hcode]
    exact removeInterfaceFromPhysicalNetwork_returns hw1 hB hR hv1
  · rw [if_neg hd, zero_add] at hv
    rw [if_neg hd, done_andThen]
    exact removeInterfaceFromPhysicalNetwork_returns hw hB hR hv

/-! ## Any network -/

variable {n n' : Network}

theorem Network.removeInterface_returns (hi : i ∈ n.getInterfaces.keys) (hn : n.getType ≠ .dummy)
    (hranges : n.RangesOk) (hw : Fit idx T B w) (hB : n.hasTables → B i)
    (hR : ∀ fam, ∀ x ∈ R fam, ¬ About idx i x)
    (hv : ∀ fam, policy w fam = R fam + interfaceItems idx vpns n i) :
    (removeInterface api vpns i (n, w)).1 = 0 := by
  have hhas := OrdMap.contains_iff.mpr hi
  cases n with
  | dummy d => exact absurd rfl hn
  | «local» l =>
    show (LocalNetwork.removeInterface api i (l, w)).1 = 0
    rw [LocalNetwork.removeInterface, if_pos (show l.mInterfaces.contains i = true from hhas),
      commit_code]
    exact removeInterfaceFromLocalNetwork_achieves.returns R w hR hw hv
  | physical p => exact removeInterface_returns hi hw (hB (.inl rfl)) hR hv
  | virtual v =>
    show (VirtualNetwork.removeInterface api i (v, w)).1 = 0
    rw [VirtualNetwork.removeInterface, if_pos (show v.mInterfaces.contains i = true from hhas),
      commit_code]
    exact removeInterfaceFromVirtualNetwork_returns (hranges.2 (ne_nil_of_mem hi)) hw
      (hB (.inr rfl)) hR hv

theorem Network.removeInterface_respects {A : String → Prop} {I : Routing → Prop}
    (h : Respects A (Call.Both I)) (hi : n.hasTables → A i) (hw : I w) :
    I (removeInterface api vpns i (n, w)).2.2 :=
  (removeInterface_agrees h.api ⟨rfl, hw⟩ hi).state.2

theorem Network.removeInterface_poised (vpns : List Nat) (n : Network) (i : String)
    (hw : Poised B w) :
    Poised (fun j => B j ∧ j ≠ i) (removeInterface api vpns i (n, w)).2.2 where
  calm := removeInterface_respects (respects_calm fun _ => True) (fun _ => trivial) hw.calm
  tidy := removeInterface_respects (respects_tidy fun _ => True) (fun _ => trivial) hw.tidy
  located j hj := removeInterface_respects (respects_located j) (fun _ => hj.2.symm)
    (hw.located j hj.1)

/-- The other interfaces of a network have nothing about the first one. -/
theorem rest_not_about (vpns : List Nat) (hidx : DistinctNumbers idx) (hn : n.RangesOk)
    (hi : i ∈ n.getInterfaces.keys) (hR : ∀ fam, ∀ x ∈ R fam, ¬ Owns idx n.getInterfaces.keys x)
    (fam : Family) :
    ∀ x ∈ R fam + ((n.getInterfaces.erase i).keys.map (interfaceItems idx vpns n)).sum,
      ¬ About idx i x := by
  intro x hx habout
  rcases Multiset.mem_add.mp hx with hrest | hother
  · exact hR fam x hrest ⟨i, hi, habout⟩
  obtain ⟨j, hj, hxj⟩ := mem_sum_map.mp hother
  obtain ⟨hmem, hne⟩ := mem_keys_erase.mp hj
  exact (belongs_interfaceItems hn hmem).not_about hidx (Ne.symm hne) hxj habout

/-- The removal of an interface, with the items of the others in place. -/
theorem Network.removeInterface_returns_of_network (hidx : DistinctNumbers idx)
    (hi : i ∈ n.getInterfaces.keys) (hn : n.getType ≠ .dummy) (hranges : n.RangesOk)
    (hw : Fit idx T B w) (hB : n.hasTables → B i)
    (hR : ∀ fam, ∀ x ∈ R fam, ¬ Owns idx n.getInterfaces.keys x)
    (hv : ∀ fam, policy w fam = R fam + networkItems idx vpns n) :
    (removeInterface api vpns i (n, w)).1 = 0 := by
  refine removeInterface_returns hi hn hranges hw hB
    (rest_not_about vpns hidx hranges hi hR) fun fam => ?_
  rw [hv fam, networkItems_perm (keys_erase_perm hi)]
  ac_rfl

/-- The loop removes one interface after the other. The tables of the interfaces that
are left are found all along. -/
theorem Network.clearInterfacesLoop_returns (hidx : DistinctNumbers idx) (fuel : Nat)
    (hn : n.getType ≠ .dummy) (hranges : n.RangesOk) (hw : Fit idx T (· ∈ n.tabled) w)
    (hR : ∀ fam, ∀ x ∈ R fam, ¬ Owns idx n.getInterfaces.keys x)
    (hv : ∀ fam, policy w fam = R fam + networkItems idx vpns n) :
    (clearInterfacesLoop api vpns fuel (n, w)).1 = 0 := by
  induction fuel generalizing n w with
  | zero => rfl
  | succ fuel ih =>
    simp only [clearInterfacesLoop]
    split
    · rfl
    rename_i i rest hkeys
    have hi : i ∈ n.getInterfaces.keys := hkeys ▸ mem_cons_self
    have hcode := removeInterface_returns_of_network hidx hi hn hranges hw
      (fun ht => mem_tabled.mpr ⟨ht, hi⟩) hR hv
    rcases hone : removeInterface api vpns i (n, w) with ⟨e, n1, w1⟩
    rw [hone] at hcode
    subst hcode
    obtain ⟨hranges1, hacc⟩ := removeInterface_accounts hidx hranges hone
    obtain ⟨hsound, hv1⟩ := hacc R hR hw.1 hv
    have herase := (removeInterface_erases hi hone).1
    have hevo := removeInterface_evolves api vpns i n w fun _ => False
    have hpoised := removeInterface_poised vpns n i hw.2
    rw [hone] at hevo hpoised
    rw [andThen, hone, if_pos rfl]
    refine ih (hevo.type_eq.symm ▸ hn) hranges1 ⟨hsound, hpoised.calm, hpoised.tidy, ?_⟩ ?_ hv1
    · intro j hj
      refine hpoised.located j ⟨hevo.toSameKind.tabled hj, ?_⟩
      have hmem := (mem_tabled.mp hj).2
      rw [herase] at hmem
      exact (mem_keys_erase.mp hmem).2
    · intro fam x hx hown
      refine hR fam x hx (Owns.mono (fun j hj => ?_) x hown)
      rw [herase] at hj
      exact (mem_keys_erase.mp hj).1

theorem Network.clearInterfaces_poised (vpns : List Nat) (hw : Poised B w)
    (hB : ∀ j ∈ n.tabled, ¬ B j) : Poised B (clearInterfaces api vpns (n, w)).2.2 where
  calm := (clearInterfaces_agrees (respects_calm fun _ => True).api ⟨rfl, hw.calm⟩
    fun _ _ => trivial).state.2
  tidy := (clearInterfaces_agrees (respects_tidy fun _ => True).api ⟨rfl, hw.tidy⟩
    fun _ _ => trivial).state.2
  located j hj := by
    have hloc := hw.located j hj
    refine (clearInterfaces_agrees (respects_located j).api ⟨rfl, hloc⟩ ?_).state.2
    rintro i hi rfl
    exact hB i hi hj

theorem Poised.mono {B' : String → Prop} (h : Poised B w) (hB : ∀ j, B' j → B j) : Poised B' w :=
  ⟨h.calm, h.tidy, fun j hj => h.located j (hB j hj)⟩

end

/-! ## Operations of the controller -/

section

variable {idx : String → Nat} {T : Rule → Prop} {base : Family → Multiset Item}
  {rejects : Multiset UidRangeParcel} {c c' : NetworkController} {w w' : Routing} {netId : Nat}
  {n : Network} {i : String} {vpns vpns' : List Nat} {vpn : Nat} {p : PhysicalNetwork} {σ : Type}

/-- One round of `modifyFallthroughLocked` when a VPN goes. -/
theorem removeFallthrough_achieves {B : String → Prop} (hp : p.mIsDefault = true)
    (h : vpns'.Perm (vpn :: vpns)) (hi : B i) :
    Achieves policy (Fit idx T B) (About idx i) (interfaceItems idx vpns' (.physical p) i)
      (interfaceItems idx vpns (.physical p) i)
      (api.removeVirtualNetworkFallthrough vpn i p.mPermission) := by
  rw [interfaceItems_default_perm hp h i]
  refine removeVirtualNetworkFallthrough_achieves hi ?_
  rw [interfaceItems, if_pos hp]
  exact besideDefault_defaultItems.add besideDefault_physicalItems

theorem modifyFallthroughLocked_returns (h : Books idx T base rejects c w)
    (hidx : DistinctNumbers idx) (hbase : InitBase idx base)
    (hvpns : c.virtualNetIds.Perm (vpn :: vpns))
    (hw : Poised (· ∈ c.tabledInterfaces c.mDefaultNetId) w) :
    (modifyFallthroughLocked api vpn false (c, w)).1 = 0 := by
  simp only [modifyFallthroughLocked]
  split
  · rfl
  rename_i hset
  obtain ⟨p, hp, hflag⟩ := h.wellFormed.default_ok.resolve_left hset
  rw [hp]
  have htabled : ∀ i ∈ p.mInterfaces.keys, i ∈ c.tabledInterfaces c.mDefaultNetId :=
    fun i hi => (mem_tabledInterfaces hp).mpr (mem_tabled.mpr ⟨.inl rfl, hi⟩)
  have hloop : Achieves policy (Fit idx T (· ∈ c.tabledInterfaces c.mDefaultNetId))
      (Owns idx p.mInterfaces.keys) (networkItems idx c.virtualNetIds (.physical p))
      (networkItems idx vpns (.physical p))
      (each (fun i => api.removeVirtualNetworkFallthrough vpn i p.mPermission)
        p.mInterfaces.keys) := by
    refine Achieves.each p.mInterfaces.keys_nodup
      (fun i hi => removeFallthrough_achieves hflag hvpns (htabled i hi)) ?_
    intro i _ j _ hij x hx
    rcases hx with hold | hnew
    · exact (belongs_physical p j).not_about hidx hij hold
    · exact (belongs_physical p j).not_about hidx hij hnew
  refine hloop.returns (restItems idx base rejects vpns c c.mDefaultNetId) w
    (h.ledger.clear hidx hbase hp (fun hd => by cases hd) vpns) ⟨h.ledger.sound, hw⟩
    fun fam => ?_
  exact (h.ledger.balance fam).trans (h.default_split hp vpns _ fam)

/-- `detach` of a network without interfaces. -/
theorem detach_returns (h : Books idx T base rejects c w) (hidx : DistinctNumbers idx)
    (hbase : InitBase idx base) (hn : c.getNetworkLocked netId = some n)
    (hempty : n.getInterfaces.keys = []) (hw : Poised (· ∈ (Op.destroyNetwork netId).lookups c) w) :
    (detach api netId (c, w)).1 = 0 := by
  simp only [detach]
  split
  · split
    · rename_i p hp
      rw [hn] at hp
      cases hp
      have hkeys : p.mInterfaces.keys = [] := hempty
      show (removeAsDefault api c.virtualNetIds (p, w)).1 = 0
      simp only [removeAsDefault]
      split
      · rw [commit_code, hkeys]
        rfl
      · rfl
    · rfl
  · split
    · rename_i hvirtual
      have htype : n.getType = .virtual :=
        of_decide_eq_true ((isVirtualNetworkLocked_eq hn).symm.trans hvirtual)
      have hvpns := virtualNetIds_erase hn
      rw [if_pos htype] at hvpns
      refine modifyFallthroughLocked_returns h hidx hbase hvpns (hw.mono fun j hj => ?_)
      rw [Op.lookups, if_pos hvirtual]
      exact mem_append_right _ hj
    · rfl

/-- Once its interfaces are cleared, a network and the default network have no tables of them. -/
theorem lookups_cleared {n1 : Network} (h : Shape c) (hn : c.getNetworkLocked netId = some n)
    (hempty : n1.getInterfaces.keys = []) {j : String}
    (hj : j ∈ (Op.destroyNetwork netId).lookups (c.putNetwork netId n1)) : j ∉ n.tabled := by
  intro hmem
  have hnone : ∀ k, j ∉ (c.putNetwork netId n1).tabledInterfaces k := by
    intro k hk
    rw [tabledInterfaces, getNetworkLocked_put] at hk
    by_cases hkey : k = netId
    · rw [if_pos hkey] at hk
      have hin := (mem_tabled.mp hk).2
      rw [hempty] at hin
      cases hin
    · rw [if_neg hkey] at hk
      rcases hn2 : c.getNetworkLocked k with _ | n2
      · rw [hn2] at hk
        cases hk
      rw [hn2] at hk
      exact hkey (h.one_network k n2 netId n j hn2 hn (mem_tabled.mp hk).2
        (mem_tabled.mp hmem).2)
  rcases mem_append.mp hj with hown | hdefault
  · exact hnone netId hown
  split at hdefault
  · exact hnone _ hdefault
  · cases hdefault

section

variable (h : Books idx T base rejects c w) (hn : c.getNetworkLocked netId = some n)
  (hidx : DistinctNumbers idx) (hbase : InitBase idx base)
include h hn hidx hbase

theorem destroyNetwork_returns (htype : n.getType ≠ .dummy) (hlocal : netId ≠ localNetId)
    (hw : Poised (· ∈ (Op.destroyNetwork netId).lookups c) w) :
    (destroyNetwork api netId (c, w)).1 = 0 := by
  have htabled : ∀ j ∈ n.tabled, j ∈ (Op.destroyNetwork netId).lookups c := fun j hj =>
    mem_append_left _ ((mem_tabledInterfaces hn).mpr hj)
  have hcode : (clearInterfaces api c.virtualNetIds (n, w)).1 = 0 :=
    clearInterfacesLoop_returns hidx _ htype (h.ledger.ranges_ok netId n hn)
    ⟨h.ledger.sound, hw.mono htabled⟩ (h.ledger.clear hidx hbase hn htype _) (h.ledger.split hn)
  have hothers := clearInterfaces_poised c.virtualNetIds
    (hw.mono fun j (hj : j ∈ (Op.destroyNetwork netId).lookups c ∧ j ∉ n.tabled) => hj.1)
    fun j hj hB => hB.2 hj
  have hevo := clearInterfaces_evolves api c.virtualNetIds n w fun _ => False
  rcases hclear : clearInterfaces api c.virtualNetIds (n, w) with ⟨ret, n1, w1⟩
  rw [hclear] at hcode hothers hevo
  subst hcode
  obtain ⟨hempty, hranges, hacc⟩ := clearInterfaces_accounts hidx
    (h.ledger.ranges_ok netId n hn) hclear
  have hbooks := h.method hidx hbase hn htype hevo hranges hacc
  have hkey := getNetworkLocked_put_self c netId n1
  have hdetach := detach_returns hbooks hidx hbase hkey hempty (hothers.mono fun j hj =>
    ⟨lookups_put hn hevo.toSameKind hj, lookups_cleared h.ledger.shape hn hempty hj⟩)
  simp only [destroyNetwork]
  rw [if_neg hlocal, hn]
  simp only [onNetwork, hclear]
  exact hdetach

theorem removeInterfaceFromNetwork_returns (htype : n.getType ≠ .dummy)
    (hi : i ∈ n.getInterfaces.keys)
    (hw : Poised (· ∈ (Op.removeInterfaceFromNetwork netId i).lookups c) w) :
    (removeInterfaceFromNetwork api netId i (c, w)).1 = 0 := by
  simp only [removeInterfaceFromNetwork]
  rw [hn]
  exact removeInterface_returns_of_network hidx hi htype (h.ledger.ranges_ok netId n hn)
    ⟨h.ledger.sound, hw⟩ (fun ht => (mem_tabledIn hn).mpr ht)
    (h.ledger.clear hidx hbase hn htype _) (h.ledger.split hn)

/-! ## What is taken out -/

/-- The removal of an interface takes its items out of the policy. -/
theorem removeInterfaceFromNetwork_policy (hi : i ∈ n.getInterfaces.keys)
    (hm : removeInterfaceFromNetwork api netId i (c, w) = (0, (c', w'))) (fam : Family) :
    policy w fam = policy w' fam + interfaceItems idx c.virtualNetIds n i := by
  simp only [removeInterfaceFromNetwork] at hm
  rw [hn] at hm
  obtain ⟨n', rfl, hmethod⟩ := onNetwork_ok hm
  have htype := removeInterface_not_dummy hmethod
  obtain ⟨_, hacc⟩ := removeInterface_accounts hidx (h.ledger.ranges_ok netId n hn) hmethod
  obtain ⟨_, hafter⟩ := hacc _ (h.ledger.clear hidx hbase hn htype c.virtualNetIds) h.ledger.sound
    (h.ledger.split hn)
  obtain ⟨herase, hitems⟩ := removeInterface_erases hi hmethod
  rw [h.ledger.split hn fam, hafter fam, networkItems_perm (keys_erase_perm hi),
    networkItems, hitems, herase]
  ac_rfl

end

/-- The fallthrough rules that a VPN has for the interfaces of the default network. -/
def fallthroughItems (idx : String → Nat) (c : NetworkController) (netId : Nat) : Multiset Item :=
  if c.isVirtualNetworkLocked netId then
    match c.getNetworkLocked c.mDefaultNetId with
    | some (.physical p) => (p.mInterfaces.keys.map fun i =>
      items [vpnFallthroughRule netId (tableOf idx i) p.mPermission] []).sum
    | _ => 0
  else 0

theorem detach_networks (rc : RouteApi σ) (netId : Nat) (c : NetworkController) (s : σ) :
    (detach rc netId (c, s)).2.1.mNetworks.erase netId = c.mNetworks.erase netId := by
  simp only [detach]
  split
  · split
    · exact erase_insert ..
    · rfl
  split
  · rw [modifyFallthroughLocked_controller]
  · rfl

theorem destroyNetwork_networks (rc : RouteApi σ) (hn : c.getNetworkLocked netId = some n)
    (hlocal : netId ≠ localNetId) (s : σ) :
    (destroyNetwork rc netId (c, s)).2.1.mNetworks = c.mNetworks.erase netId := by
  simp only [destroyNetwork]
  rw [if_neg hlocal, hn]
  exact (detach_networks rc netId _ _).trans (erase_insert ..)

/-- The items of the default network for one more VPN. -/
theorem networkItems_default_perm (hp : p.mIsDefault = true) (h : vpns'.Perm (vpn :: vpns)) :
    networkItems idx vpns' (.physical p) = networkItems idx vpns (.physical p) +
      (p.mInterfaces.keys.map fun i =>
        items [vpnFallthroughRule vpn (tableOf idx i) p.mPermission] []).sum := by
  rw [networkItems, networkItems, funext (interfaceItems_default_perm hp h)]
  exact sum_map_add

/-- A network that goes leaves the items of the others, but for the fallthrough rules of a VPN. -/
theorem otherItems_detached (h : Books idx T base rejects c w)
    (hn : c.getNetworkLocked netId = some n) :
    otherItems idx c.virtualNetIds c netId =
      otherItems idx (c.eraseNetwork netId).virtualNetIds c netId +
        fallthroughItems idx c netId := by
  have hvpns := virtualNetIds_erase hn
  have hothers : ∀ k m, (c.eraseNetwork netId).getNetworkLocked k = some m →
      k ≠ c.mDefaultNetId → m.isDefault = false := by
    intro k m hk hne
    exact h.not_default (getNetworkLocked_of_erase hk).2 hne
  rw [fallthroughItems, isVirtualNetworkLocked_eq hn]
  by_cases hvirtual : n.getType = .virtual
  · rw [if_pos hvirtual] at hvpns
    rw [if_pos (decide_eq_true hvirtual)]
    rcases h.wellFormed.default_ok with hunset | ⟨p, hp, hflag⟩
    · have hkey : ∀ k m, c.getNetworkLocked k = some m → k ≠ c.mDefaultNetId := by
        intro k m hk heq
        exact h.ledger.shape.ne_unset hk (heq.trans hunset)
      have hnone : c.getNetworkLocked c.mDefaultNetId = none := by
        rcases hd : c.getNetworkLocked c.mDefaultNetId with _ | m
        · rfl
        · exact absurd rfl (hkey _ m hd)
      rw [hnone, add_zero]
      exact itemsFor_not_default (c := c.eraseNetwork netId) fun k m hk =>
        hothers k m hk (hkey k m (getNetworkLocked_of_erase hk).2)
    · have hne : c.mDefaultNetId ≠ netId := by
        intro heq
        rw [heq, hn] at hp
        cases hp
        cases hvirtual
      have hp' : (c.eraseNetwork netId).getNetworkLocked c.mDefaultNetId = some (.physical p) := by
        rw [getNetworkLocked_erase, if_neg hne]
        exact hp
      have hsplit : ∀ vs, otherItems idx vs c netId = networkItems idx vs (.physical p) +
          otherItems idx vs (c.eraseNetwork netId) c.mDefaultNetId := fun vs => itemsFor_split hp'
      rw [hp, hsplit, hsplit, networkItems_default_perm hflag hvpns, otherItems_not_default hothers]
      ac_rfl
  · rw [if_neg hvirtual] at hvpns
    rw [if_neg (by simpa using hvirtual), add_zero]
    exact itemsFor_vpns_perm (c := c.eraseNetwork netId) hvpns

/-- `destroyNetwork` takes out the items of the network, and the fallthrough rules of a VPN. -/
theorem destroyNetwork_policy (h : Books idx T base rejects c w) (hidx : DistinctNumbers idx)
    (hbase : InitBase idx base) (hn : c.getNetworkLocked netId = some n)
    (hlocal : netId ≠ localNetId)
    (hm : destroyNetwork api netId (c, w) = (0, (c', w'))) (fam : Family) :
    policy w fam =
      policy w' fam + (networkItems idx c.virtualNetIds n + fallthroughItems idx c netId) := by
  have hnets := destroyNetwork_networks api hn hlocal w
  rw [hm] at hnets
  have hvpns : c'.virtualNetIds = (c.eraseNetwork netId).virtualNetIds := by
    rw [virtualNetIds, virtualNetIds, hnets]
    rfl
  have hafter : controllerItems idx c' =
      otherItems idx (c.eraseNetwork netId).virtualNetIds c netId := by
    rw [controllerItems, hvpns, itemsFor, hnets]
    rfl
  rw [h.ledger.balance fam,
    (destroyNetwork_books hidx hbase netId c w c' w' h hm).ledger.balance fam, hafter,
    controllerItems, itemsFor_split hn, otherItems_detached h hn]
  ac_rfl

end

end Netd
