import Netd.Policy.Courses
import Netd.Policy.Isolation

/-!
# What a destroyed network leaves behind

`destroyNetwork` removes what the controller has recorded. When an operation failed half way,
some rules are in the kernel and the interface is not in the network. On a course no operation
fails half way, and every rule of netd names networks and interfaces that the state has.
-/

namespace Netd

open NetworkController List Fwmark
open RouteController (api)
open NetdNativeService (netdRules mem_netdRules)

/-- The rule compares the netId of a mark with `netId`. -/
def Rule.CarriesNetId (netId : Nat) (x : Rule) : Prop :=
  (Fwmark.ofInt x.mask).netId = fwmarkNetIdMask ∧ (Fwmark.ofInt x.fwmark).netId.toNat = netId

instance (netId : Nat) (x : Rule) : Decidable (x.CarriesNetId netId) :=
  inferInstanceAs (Decidable (_ ∧ _))

def NetworkController.Unassigned (c : NetworkController) (i : String) : Prop :=
  ∀ k n, c.getNetworkLocked k = some n → i ∉ n.getInterfaces.keys

instance (c : NetworkController) (i : String) : Decidable (c.Unassigned i) :=
  decidable_of_iff (∀ entry ∈ c.mNetworks.entries, i ∉ entry.2.getInterfaces.keys)
    ⟨fun h k n hk => h (k, n) (OrdMap.find?_eq_some.mp hk),
      fun h entry he => h entry.1 entry.2 (OrdMap.find?_eq_some.mpr he)⟩

/-! ## The netIds and interfaces that rules name -/

section

variable {netId k : Nat} {x : Rule} {priority table : Nat} {f m : Fwmark} {iif oif : Option String}
  {u : Option UidRangeParcel} {permission : Permission} {e s : Uid}

theorem lookupRule_carries (h : (lookupRule priority table f m iif oif u).CarriesNetId netId) :
    m.netId = fwmarkNetIdMask ∧ f.netId.toNat = netId := by
  obtain ⟨hmask, hmark⟩ := h
  rw [lookupRule, intValue_inj.mp (intValue_ofInt _)] at hmask hmark
  exact ⟨hmask, hmark⟩

theorem lookupRule_not_carries (hm : m.netId = 0) :
    ¬ (lookupRule priority table f m iif oif u).CarriesNetId netId := by
  intro h
  have hmask := (lookupRule_carries h).1
  rw [hm] at hmask
  exact absurd hmask (by decide)

theorem netIdField_toNat (hk : k ≤ 65535) : (netIdField k).toNat = k := by
  rw [netIdField, BitVec.toNat_ofNat]
  omega

theorem explicitNetworkRule_carries (hk : k ≤ 65535)
    (h : (explicitNetworkRule k table permission s e).CarriesNetId netId) : netId = k :=
  (lookupRule_carries h).2.symm.trans (netIdField_toNat hk)

theorem output_not_carries {i : String} (h : x ∈ outputInterfaceRules i table permission s e) :
    ¬ x.CarriesNetId netId := by
  rcases mem_append.mp h with hroot | hout
  · split at hroot
    · cases mem_singleton.mp hroot
      exact lookupRule_not_carries rfl
    · cases hroot
  · cases mem_singleton.mp hout
    exact lookupRule_not_carries rfl

theorem InitRule.carries {idx : String → Nat} (h : InitRule idx x) (hne : x.priority ≠ 0)
    (hx : x.CarriesNetId netId) : netId = localNetId := by
  rcases h with hzero | hinit | hdummy
  · exact absurd hzero hne
  · simp only [initRules, mem_cons, not_mem_nil, or_false] at hinit
    rcases hinit with rfl | rfl | rfl | rfl | rfl | rfl
    · exact absurd hx (lookupRule_not_carries rfl)
    · exact absurd hx (lookupRule_not_carries rfl)
    · exact absurd hx (lookupRule_not_carries rfl)
    · exact explicitNetworkRule_carries (by decide) hx
    · exact absurd hx (lookupRule_not_carries rfl)
    · exact absurd hx.1 (by decide)
  · exact absurd hx (output_not_carries hdummy)

end

section

variable {idx : String → Nat} {T : Rule → Prop} {base : Family → Multiset Item}
  {rejects : Multiset UidRangeParcel} {c : NetworkController} {w : Routing} {x : Rule}
  {netId : Nat} {i : String}

theorem VpnRule.carries {k : Nat} {table : Nat} {secure : Bool} (hk : k ≤ 65535)
    (h : VpnRule k i table secure x) (hx : x.CarriesNetId netId) : netId = k := by
  cases h with
  | uid r hr =>
    refine absurd hx (lookupRule_not_carries ?_)
    cases secure with
    | true | false => rfl
  | explicit r hr => exact explicitNetworkRule_carries hk hx
  | output r hr | toLocal => exact absurd hx (lookupRule_not_carries rfl)
  | system => exact (lookupRule_carries hx).2.symm.trans (netIdField_toNat hk)

theorem ControllerRule.carries (h : ControllerRule idx c x) (hshape : Shape c)
    (hx : x.CarriesNetId netId) : netId = netIdUnset ∨ ∃ n, c.getNetworkLocked netId = some n := by
  cases h with
  | physical hk hi hmem =>
    have hbound := (hshape.key_bounds hk).2
    rcases mem_physicalRules.mp hmem with rfl | rfl | rfl | ⟨_, rfl⟩
    · exact .inr ⟨_, explicitNetworkRule_carries hbound hx ▸ hk⟩
    · exact absurd hx (lookupRule_not_carries rfl)
    · exact absurd hx (lookupRule_not_carries rfl)
    · exact .inr ⟨_, ((lookupRule_carries hx).2.symm.trans (netIdField_toNat hbound)) ▸ hk⟩
  | default hk hi hd hmem =>
    rcases mem_cons.mp hmem with rfl | hvpn
    · exact .inl (lookupRule_carries hx).2.symm
    obtain ⟨vpn, hvirtual, rfl⟩ := mem_map.mp hvpn
    obtain ⟨⟨_, n⟩, hentry, rfl⟩ := mem_map.mp hvirtual
    have hn := OrdMap.find?_eq_some.mpr (mem_filter.mp hentry).1
    have hid := (lookupRule_carries hx).2.symm.trans (netIdField_toNat (hshape.key_bounds hn).2)
    exact .inr ⟨n, hid ▸ hn⟩
  | users hk hi hr hne hmem =>
    exact .inr ⟨_, (vpnRule_of_mem_uid hne hmem).carries (hshape.key_bounds hk).2 hx ▸ hk⟩
  | virtual hk hi hmem =>
    exact .inr ⟨_, (vpnRule_of_mem_nonUid hmem).carries (hshape.key_bounds hk).2 hx ▸ hk⟩
  | «local» hk hi hmem => exact absurd hx (output_not_carries hmem)

theorem ControllerRule.ofInterface (h : ControllerRule idx c x) :
    ∃ k n j, c.getNetworkLocked k = some n ∧ j ∈ n.getInterfaces.keys ∧ x.OfInterface idx j := by
  cases h with
  | physical hk hi hmem => exact ⟨_, _, _, hk, hi, ofInterface_physicalRules hmem⟩
  | default hk hi hd hmem => exact ⟨_, _, _, hk, hi, ofInterface_defaultRules hmem⟩
  | users hk hi hr hne hmem => exact ⟨_, _, _, hk, hi, (vpnRule_of_mem_uid hne hmem).ofInterface⟩
  | virtual hk hi hmem => exact ⟨_, _, _, hk, hi, (vpnRule_of_mem_nonUid hmem).ofInterface⟩
  | «local» hk hi hmem => exact ⟨_, _, _, hk, hi, ofInterface_localRules hmem⟩

variable {fam : Family}

/-- A balanced ledger without tethering rules has no rule for a network that is not there. -/
theorem Ledger.not_carries (h : Ledger idx T base rejects c w) (hbase : InitBase idx base)
    (hT : ∀ x, ¬ T x) (hunset : netId ≠ netIdUnset) (hlocal : netId ≠ localNetId)
    (hgone : c.getNetworkLocked netId = none) (hx : x ∈ (netdRules w fam).toList) :
    ¬ x.CarriesNetId netId := by
  intro hcarries
  obtain ⟨hmem, hne⟩ := mem_netdRules.mp hx
  rcases h.rule_cases hbase hmem with hinit | hctrl | ⟨r, _, rfl⟩ | ⟨ht, _⟩
  · exact hlocal (hinit.carries hne hcarries)
  · rcases hctrl.carries h.shape hcarries with hzero | ⟨n, hn⟩
    · exact hunset hzero
    · rw [hgone] at hn
      cases hn
  · have hmask : (ofInt ({ protectedFromVpn := true } : Fwmark).intValue).netId ≠
        fwmarkNetIdMask := by decide
    exact hmask hcarries.1
  · exact hT x ht

/-- Nor for the table of an interface that no network has. -/
theorem Ledger.not_table (h : Ledger idx T base rejects c w) (hbase : InitBase idx base)
    (hidx : DistinctNumbers idx) (hT : ∀ x, ¬ T x) (hfree : c.Unassigned i) (hi : idx i ≠ 0)
    (hx : x ∈ (netdRules w fam).toList) : x.table ≠ tableOf idx i := by
  intro htable
  obtain ⟨hmem, hne⟩ := mem_netdRules.mp hx
  have habout : x.priority ≠ rulePriorityTethering → x.About idx i :=
    fun hp => ⟨hne, hp, .inl ⟨hi, htable⟩⟩
  rcases h.rule_cases hbase hmem with hinit | hctrl | ⟨r, _, rfl⟩ | ⟨ht, _⟩
  · obtain ⟨d, hd, hdummy⟩ := h.has_dummy
    have hne' : i ≠ dummyInterfaceName := by
      rintro rfl
      exact hfree _ _ hd hdummy
    exact hinit.not_about hidx hne' (habout (hinit.priority_ne (by decide)))
  · obtain ⟨k, n, j, hk, hj, hof⟩ := hctrl.ofInterface
    have hij : i ≠ j := by
      rintro rfl
      exact hfree k n hk hj
    exact hof.not_about hidx hij (habout hctrl.priority_ne.2)
  · exact prohibitNonVpnRule_not_about r (habout (show (12500 : Nat) ≠ 18000 by decide))
  · exact hT x ht

end

namespace NetdNativeService

variable {idx idx₀ : String → Nat} {w₀ w : Routing} {netOps : List NetworkController.Op}
  {c : NetworkController} {netId : Nat}

theorem not_tethered (x : Rule) : ¬ Tethered (netOps.map .network) x := by
  rintro ⟨fromIface, toIface, hmem, _⟩
  obtain ⟨op, _, heq⟩ := mem_map.mp hmem
  cases heq

/-- A calm `destroyNetwork` on a course is one more call of it, and the network is gone. -/
theorem Course.after_destroyNetwork (hrun : Course idx₀ w₀ idx (netOps.map .network) (c, w))
    (h0 : Started idx₀ w₀) (hops : Admissible (netOps.map .network)) (hcalm : Calm w)
    (hdummy : netId ≠ dummyNetId) (hlocal : netId ≠ localNetId)
    (hrep : ∀ j ∈ (NetworkController.Op.destroyNetwork netId).lookups c, Reported idx w j) :
    ∃ netOps' : List NetworkController.Op, Followed w₀ idx (netOps'.map .network)
        (destroyNetwork api netId (c, w)).2.1 (destroyNetwork api netId (c, w)).2.2 ∧
      (destroyNetwork api netId (c, w)).2.1.getNetworkLocked netId = none := by
  have hfollowed := hrun.followed h0 hops
  rcases hn : c.getNetworkLocked netId with _ | n
  · have hsame : destroyNetwork api netId (c, w) = (-Errno.enonet, (c, w)) := by
      simp only [destroyNetwork]
      rw [if_neg hlocal, hn]
    rw [hsame]
    exact ⟨netOps, hfollowed, hn⟩
  · have htype : n.getType ≠ .dummy := by
      intro hd
      have hrange := hfollowed.accounted.books.ledger.shape.in_range netId n hn
      rw [hd] at hrange
      exact hdummy hrange
    obtain ⟨c', w', hm, _⟩ := hrun.removes_network h0 hops hcalm hn htype hlocal hrep
    have hgone := destroyNetwork_networks api hn hlocal w
    have hstep : destroyNetwork api netId (c, w) = (0, (c', w')) := hm
    rw [hstep] at hgone ⊢
    have hnext := hrun.call (.network (.destroyNetwork netId)) (fun j hj => (hrep j hj).1) hm
    refine ⟨.destroyNetwork netId :: netOps, hnext.followed h0 ?_, ?_⟩
    · intro op hop
      rcases mem_cons.mp hop with rfl | hold
      · intro r hr
        cases hr
      · exact hops op hold
    · rw [getNetworkLocked, hgone, OrdMap.find?_erase, if_pos rfl]

/-- On every course, a calm `destroyNetwork` that finds its tables leaves no rule for the netId, and
none for the table of an interface without a network. -/
theorem destroyed_network_leaves_no_rule (h₀ : Started idx₀ w₀)
    (hrun : Course idx₀ w₀ idx (netOps.map .network) (c, w))
    (hops : Admissible (netOps.map .network)) (hcalm : Calm w) (hunset : netId ≠ netIdUnset)
    (hdummy : netId ≠ dummyNetId) (hlocal : netId ≠ localNetId)
    (hrep : ∀ j ∈ (NetworkController.Op.destroyNetwork netId).lookups c, Reported idx w j)
    (fam : Family) :
    ∀ x ∈ (netdRules (destroyNetwork api netId (c, w)).2.2 fam).toList,
      ¬ x.CarriesNetId netId ∧
        ∀ i, (destroyNetwork api netId (c, w)).2.1.Unassigned i → idx i ≠ 0 →
          x.table ≠ tableOf idx i := by
  intro x hx
  obtain ⟨netOps', ⟨⟨hidx, hbase, _, hbooks⟩, _⟩, hgone⟩ :=
    hrun.after_destroyNetwork h₀ hops hcalm hdummy hlocal hrep
  constructor
  · exact hbooks.ledger.not_carries hbase not_tethered hunset hlocal hgone hx
  · intro i hfree hi
    exact hbooks.ledger.not_table hbase hidx not_tethered hfree hi hx

/-! ### Two failed additions -/

/-- A network without interfaces. -/
def created : NetworkController × Routing :=
  (step (.network (.createPhysicalNetwork 100 .none)) (.new, afterInit)).2

/-- `wlan0` is added while the system calls have these faults. -/
def attempt (faults : List Fault) : Int × NetworkController × Routing :=
  step (.network (.addInterfaceToNetwork 100 "wlan0"))
    (created.1, { created.2 with faults := faults })

/-- The first attempt is stopped by both mark commands, the second one succeeds. -/
def retried : NetworkController × Routing :=
  (step (.network (.addInterfaceToNetwork 100 "wlan0")) (attempt [.refuse 21, .refuse 21]).2).2

theorem course_retried : Course threeInterfaces afterInit threeInterfaces
      ([.addInterfaceToNetwork 100 "wlan0", .createPhysicalNetwork 100 .none].map .network)
      (retried.1, retried.2) := by
  have hstart : Course threeInterfaces afterInit threeInterfaces [] (.new, afterInit) := .start
  have hcreated := hstart.call (.network (.createPhysicalNetwork 100 .none)) (by decide)
    (show _ = (0, (created.1, created.2)) from Prod.ext (by decide +kernel) rfl)
  have href := (hcreated.failures [.refuse 21, .refuse 21]).refused
    (.network (.addInterfaceToNetwork 100 "wlan0")) (by decide +kernel)
    (show attempt [.refuse 21, .refuse 21] = (_, (created.1, _)) from rfl) ⟨rfl, rfl⟩
  exact href.call (.network (.addInterfaceToNetwork 100 "wlan0")) (by decide +kernel)
    (Prod.ext (show (step (.network (.addInterfaceToNetwork 100 "wlan0"))
      (attempt [.refuse 21, .refuse 21]).2).1 = 0 by decide +kernel) rfl)

theorem destroyed_network_leaves_no_rule_retried : (attempt [.refuse 21, .refuse 21]).1 ≠ 0 ∧
      ∀ fam, ∀ x ∈ (netdRules (destroyNetwork api 100 retried).2.2 fam).toList,
        ¬ x.CarriesNetId 100 ∧ x.table ≠ 1010 := by
  refine ⟨by decide +kernel, fun fam x hx => ?_⟩
  obtain ⟨hcarries, htable⟩ := destroyed_network_leaves_no_rule started_afterInit course_retried
    (by decide) (by decide +kernel) (by decide) (by decide) (by decide) (by decide +kernel) fam x hx
  exact ⟨hcarries, htable "wlan0" (by decide +kernel) (by decide)⟩

/-- An addition that fails half way leaves a rule that `destroyNetwork` does not see. -/
theorem failed_addition_leaves_rule :
    (attempt [.pass, .pass, .pass, .pass, .refuse 21]).1 = -Errno.einval ∧
      Calm (attempt [.pass, .pass, .pass, .pass, .refuse 21]).2.2 ∧
      (destroyNetwork api 100 (attempt [.pass, .pass, .pass, .pass, .refuse 21]).2).1 = 0 ∧
      (destroyNetwork api 100
        (attempt [.pass, .pass, .pass, .pass, .refuse 21]).2).2.1.Unassigned "wlan0" ∧
      ∃ x ∈ (netdRules (destroyNetwork api 100
          (attempt [.pass, .pass, .pass, .pass, .refuse 21]).2).2.2 .inet).toList,
        x.CarriesNetId 100 ∧ x.table = tableOf threeInterfaces "wlan0" := by
  decide +kernel

end NetdNativeService

end Netd
