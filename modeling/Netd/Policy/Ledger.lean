import Netd.Policy.Networks
import Netd.Server.WellFormed

/-!
# The ledger of the controller

`controllerItems` is what the controller's state says should be in the policy. The *ledger* is
balanced when the policy of each family is the base that `Init` left, the items of the controller,
and the prohibit rules of the rejected uid ranges.
-/

namespace Netd

open NetworkController List OrdMap

/-- The items of all networks of a controller, if `vpns` are the VPNs. -/
def itemsFor (idx : String → Nat) (vpns : List Nat) (c : NetworkController) : Multiset Item :=
  (c.mNetworks.entries.map fun e => networkItems idx vpns e.2).sum

def controllerItems (idx : String → Nat) (c : NetworkController) : Multiset Item :=
  itemsFor idx c.virtualNetIds c

def otherItems (idx : String → Nat) (vpns : List Nat) (c : NetworkController) (k : Nat) :
    Multiset Item :=
  ((c.mNetworks.erase k).entries.map fun e => networkItems idx vpns e.2).sum

def rejectItems (rejects : Multiset UidRangeParcel) : Multiset Item :=
  rejects.map fun r => .rule (prohibitNonVpnRule r)

/-- The rules after `Init`: those of priority zero, those netd always adds, and those of the dummy
interface. -/
def InitRule (idx : String → Nat) (x : Rule) : Prop :=
  x.priority = 0 ∨ x ∈ initRules localNetId ∨
    x ∈ outputInterfaceRules dummyInterfaceName (tableOf idx dummyInterfaceName) .none invalidUid
      invalidUid

/-- The base is what `Init` can leave. -/
def InitBase (idx : String → Nat) (base : Family → Multiset Item) : Prop :=
  ∀ fam x, Item.rule x ∈ base fam → InitRule idx x

/-- An interface that has a routing table has a number. -/
def Network.HasTables (idx : String → Nat) (n : Network) : Prop :=
  n.getType = .physical ∨ n.getType = .virtual → ∀ i ∈ n.getInterfaces.keys, idx i ≠ 0

structure Ledger (idx : String → Nat) (T : Rule → Prop) (base : Family → Multiset Item)
    (rejects : Multiset UidRangeParcel) (c : NetworkController) (w : Routing) : Prop where
  shape : Shape c
  sound : Sound idx T w
  balance : ∀ fam, policy w fam = base fam + controllerItems idx c + rejectItems rejects
  ranges_ok : ∀ k n, c.getNetworkLocked k = some n → n.RangesOk
  has_tables : ∀ k n, c.getNetworkLocked k = some n → n.HasTables idx
  /-- The dummy network keeps its interface. -/
  has_dummy : ∃ d, c.getNetworkLocked dummyNetId = some (.dummy d) ∧
    dummyInterfaceName ∈ d.mInterfaces.keys

/-! ## Parts of the controller's items -/

section

variable {idx : String → Nat} {vpns vpns' : List Nat} {c : NetworkController} {k : Nat}
  {n n' : Network}

theorem defaultItems_vpns_perm {i : String} {p : Permission} (h : vpns.Perm vpns') :
    defaultItems idx i vpns p = defaultItems idx i vpns' p :=
  congrArg (· + _) (Multiset.coe_eq_coe.mpr (((h.map _).cons _).map Item.rule))

theorem networkItems_congr (h : ∀ p, n = .physical p →
    ∀ i, interfaceItems idx vpns n i = interfaceItems idx vpns' n i) :
    networkItems idx vpns n = networkItems idx vpns' n := by
  have hi : interfaceItems idx vpns n = interfaceItems idx vpns' n := by
    funext i
    cases n with
    | physical p => exact h p rfl i
    | dummy d | «local» l | virtual v => rfl
  rw [networkItems, networkItems, hi]

theorem networkItems_vpns_perm (h : vpns.Perm vpns') :
    networkItems idx vpns n = networkItems idx vpns' n :=
  networkItems_congr fun p hp i => by
    rw [hp, interfaceItems, interfaceItems, defaultItems_vpns_perm h]

theorem networkItems_not_default (h : n.isDefault = false) :
    networkItems idx vpns n = networkItems idx vpns' n := by
  refine networkItems_congr fun p hp i => ?_
  subst hp
  have hd : p.mIsDefault = false := h
  rw [interfaceItems, interfaceItems, hd, if_neg Bool.false_ne_true, if_neg Bool.false_ne_true]

theorem itemsFor_vpns_perm (h : vpns.Perm vpns') : itemsFor idx vpns c = itemsFor idx vpns' c := by
  exact congrArg List.sum (map_congr_left fun e _ => networkItems_vpns_perm h)

theorem itemsFor_split (hk : c.getNetworkLocked k = some n) :
    itemsFor idx vpns c = networkItems idx vpns n + otherItems idx vpns c k :=
  ((perm_erase hk).map _).sum_eq

theorem itemsFor_put (c : NetworkController) (k : Nat) (n : Network) :
    itemsFor idx vpns (c.putNetwork k n) = networkItems idx vpns n + otherItems idx vpns c k :=
  ((perm_insert c.mNetworks k n).map _).sum_eq

theorem otherItems_not_default
    (h : ∀ k2 n2, c.getNetworkLocked k2 = some n2 → k2 ≠ k → n2.isDefault = false) :
    otherItems idx vpns c k = otherItems idx vpns' c k := by
  refine congrArg List.sum (map_congr_left fun e he => networkItems_not_default ?_)
  obtain ⟨hmem, hne⟩ := mem_erase.mp he
  exact h e.1 e.2 (find?_eq_some.mpr hmem) hne

theorem itemsFor_not_default (h : ∀ k2 n2, c.getNetworkLocked k2 = some n2 → n2.isDefault = false) :
    itemsFor idx vpns c = itemsFor idx vpns' c := by
  exact congrArg List.sum (map_congr_left fun e he =>
    networkItems_not_default (h e.1 e.2 (find?_eq_some.mpr he)))

/-- The netIds of the virtual networks among some bindings. -/
def virtualKeys (es : List (Nat × Network)) : List Nat :=
  (es.filter fun e => e.2.getType = .virtual).map Prod.fst

theorem virtualKeys_perm {es es' : List (Nat × Network)} (h : es.Perm es') :
    (virtualKeys es).Perm (virtualKeys es') :=
  (h.filter _).map _

theorem virtualKeys_cons (e : Nat × Network) (es : List (Nat × Network)) : virtualKeys (e :: es) =
      if e.2.getType = .virtual then e.1 :: virtualKeys es else virtualKeys es := by
  rw [virtualKeys, filter_cons]
  by_cases h : e.2.getType = .virtual
  · rw [if_pos (decide_eq_true h), if_pos h]
    rfl
  · rw [if_neg (by simpa using h), if_neg h]
    rfl

theorem virtualNetIds_put (hk : c.getNetworkLocked k = some n) (ht : n'.getType = n.getType) :
    (c.putNetwork k n').virtualNetIds.Perm c.virtualNetIds := by
  have hnew := virtualKeys_perm (perm_insert c.mNetworks k n')
  have hold := virtualKeys_perm (perm_erase hk)
  rw [virtualKeys_cons] at hnew hold
  rw [ht] at hnew
  exact hnew.trans hold.symm

theorem virtualNetIds_enter (hk : c.getNetworkLocked k = none) :
    (c.putNetwork k n).virtualNetIds.Perm
      (if n.getType = .virtual then k :: c.virtualNetIds else c.virtualNetIds) := by
  have hnew := virtualKeys_perm (perm_insert c.mNetworks k n)
  rwa [virtualKeys_cons, erase_of_find?_none hk] at hnew

theorem virtualNetIds_erase (hk : c.getNetworkLocked k = some n) : c.virtualNetIds.Perm
      (if n.getType = .virtual then k :: (c.eraseNetwork k).virtualNetIds
        else (c.eraseNetwork k).virtualNetIds) := by
  have hold := virtualKeys_perm (perm_erase hk)
  rwa [virtualKeys_cons] at hold

end

/-! ## The rest of the policy is about others -/

section

variable {idx : String → Nat} {x : Rule} {i : String}

theorem not_about_of_low_table (ht : x.table < routeTableOffsetFromIndex) (ho : x.oif = none)
    (hp : x.priority ≠ rulePriorityVpnOutputToLocal) : ¬ x.About idx i := by
  rintro ⟨_, _, ⟨_, htable⟩ | hoif | ⟨hprio, _⟩⟩
  · rw [htable, tableOf] at ht
    omega
  · rw [ho] at hoif
    cases hoif
  · exact hp hprio

theorem InitRule.not_about (h : InitRule idx x) (hidx : DistinctNumbers idx)
    (hi : i ≠ dummyInterfaceName) : ¬ x.About idx i := by
  rcases h with hzero | hinit | hdummy
  · exact fun habout => habout.1 hzero
  · simp only [initRules, mem_cons, not_mem_nil, or_false] at hinit
    rcases hinit with rfl | rfl | rfl | rfl | rfl | rfl
    · exact not_about_of_low_table (show (99 : Nat) < 1000 by decide) rfl
        (show (15000 : Nat) ≠ 11000 by decide)
    · exact not_about_of_low_table (show (98 : Nat) < 1000 by decide) rfl
        (show (16000 : Nat) ≠ 11000 by decide)
    · exact not_about_of_low_table (show (99 : Nat) < 1000 by decide) rfl
        (show (10000 : Nat) ≠ 11000 by decide)
    · exact not_about_of_low_table (show (97 : Nat) < 1000 by decide) rfl
        (show (13000 : Nat) ≠ 11000 by decide)
    · exact not_about_of_low_table (show (97 : Nat) < 1000 by decide) rfl
        (show (17000 : Nat) ≠ 11000 by decide)
    · exact not_about_of_low_table (show (0 : Nat) < 1000 by decide) rfl
        (show (32000 : Nat) ≠ 11000 by decide)
  · have hmem : x ∈ physicalRules 0 dummyInterfaceName (tableOf idx dummyInterfaceName) .none :=
      mem_cons_of_mem _ (mem_append_left _ hdummy)
    exact (ofInterface_physicalRules hmem).not_about hidx hi

theorem prohibitNonVpnRule_not_about (r : UidRangeParcel) : ¬ (prohibitNonVpnRule r).About idx i :=
  not_about_of_low_table (show (0 : Nat) < 1000 by decide) rfl
    (show (12500 : Nat) ≠ 11000 by decide)

end

section

variable {idx : String → Nat} {T : Rule → Prop} {base : Family → Multiset Item}
  {rejects : Multiset UidRangeParcel} {c : NetworkController} {w w' : Routing} {k : Nat}
  {n n' : Network} {fresh : String → Prop}

/-- The policy outside the network `k`. -/
def restItems (idx : String → Nat) (base : Family → Multiset Item)
    (rejects : Multiset UidRangeParcel) (vpns : List Nat) (c : NetworkController) (k : Nat)
    (fam : Family) : Multiset Item :=
  base fam + otherItems idx vpns c k + rejectItems rejects

section

variable (h : Ledger idx T base rejects c w)
include h

theorem Ledger.split (hk : c.getNetworkLocked k = some n) (fam : Family) : policy w fam =
      restItems idx base rejects c.virtualNetIds c k fam + networkItems idx c.virtualNetIds n := by
  rw [h.balance fam, controllerItems, itemsFor_split hk, restItems]
  ac_rfl

theorem Ledger.interface_ne_dummy (hk : c.getNetworkLocked k = some n) (hn : n.getType ≠ .dummy)
    {i : String} (hi : i ∈ n.getInterfaces.keys) : i ≠ dummyInterfaceName := by
  rintro rfl
  obtain ⟨d, hd, hmem⟩ := h.has_dummy
  have hkey := h.shape.one_network k n dummyNetId (.dummy d) dummyInterfaceName hk hd hi hmem
  rw [hkey, hd] at hk
  cases hk
  exact hn rfl

/-- The policy outside a network has nothing about its interfaces. -/
theorem Ledger.clear (hidx : DistinctNumbers idx)
    (hbase : InitBase idx base) (hk : c.getNetworkLocked k = some n) (hn : n.getType ≠ .dummy)
    (vpns : List Nat) (fam : Family) :
    ∀ x ∈ restItems idx base rejects vpns c k fam, ¬ Owns idx n.getInterfaces.keys x := by
  rintro x hx ⟨i, hi, habout⟩
  cases x with
  | mark m => exact habout
  | rule r =>
    rcases Multiset.mem_add.mp hx with hx | hreject
    · rcases Multiset.mem_add.mp hx with hinit | hother
      · exact (hbase fam r hinit).not_about hidx (h.interface_ne_dummy hk hn hi) habout
      obtain ⟨⟨k2, n2⟩, he, hr⟩ := mem_sum_map.mp hother
      obtain ⟨hmem, hne⟩ := mem_erase.mp he
      have hk2 : c.getNetworkLocked k2 = some n2 := find?_eq_some.mpr hmem
      obtain ⟨j, hj, hrj⟩ := mem_sum_map.mp hr
      have hij : i ≠ j := by
        rintro rfl
        exact hne (h.shape.one_network k2 n2 k n i hk2 hk hj hi)
      exact (belongs_interfaceItems (h.ranges_ok k2 n2 hk2) hj).not_about hidx hij hrj habout
    · obtain ⟨range, _, heq⟩ := Multiset.mem_map.mp hreject
      cases heq
      exact prohibitNonVpnRule_not_about range habout

end

theorem Network.HasTables.sameKind (h : n.HasTables idx) (hsame : Network.SameKind fresh n n')
    (hfresh : ∀ i, fresh i → n.getType = .physical ∨ n.getType = .virtual → idx i ≠ 0) :
    n'.HasTables idx := by
  intro htype i hi
  rw [hsame.type_eq] at htype
  rcases hsame.interfaces i hi with hold | hnew
  · exact h htype i hold
  · exact hfresh i hnew htype

section

variable (h : Ledger idx T base rejects c w)
include h

/-- A method of a network keeps the ledger balanced. -/
theorem Ledger.method (hidx : DistinctNumbers idx) (hbase : InitBase idx base)
    (hk : c.getNetworkLocked k = some n) (hn : n.getType ≠ .dummy)
    (hsame : Network.SameKind fresh n n') (hn' : n'.RangesOk) (htables : n'.HasTables idx)
    (hacc : Accounts idx T c.virtualNetIds (Owns idx n.getInterfaces.keys) n w n' w')
    (hshape : Shape (c.putNetwork k n')) : Ledger idx T base rejects (c.putNetwork k n') w' := by
  obtain ⟨hsound, hbalance⟩ := hacc (restItems idx base rejects c.virtualNetIds c k)
    (h.clear hidx hbase hk hn _) h.sound (h.split hk)
  have hvpns := virtualNetIds_put hk hsame.type_eq
  refine ⟨hshape, hsound, fun fam => ?_, forall_insert h.ranges_ok hn',
    forall_insert h.has_tables htables, ?_⟩
  · rw [hbalance fam, controllerItems, itemsFor_vpns_perm hvpns, itemsFor_put, restItems]
    ac_rfl
  · obtain ⟨d, hd, hmem⟩ := h.has_dummy
    refine ⟨d, ?_, hmem⟩
    rw [getNetworkLocked_put, if_neg]
    · exact hd
    · intro heq
      rw [← heq, hd] at hk
      cases hk
      exact hn rfl

/-- A method that brings no new interface. -/
theorem Ledger.method_old (hidx : DistinctNumbers idx)
    (hbase : InitBase idx base) (hk : c.getNetworkLocked k = some n) (hn : n.getType ≠ .dummy)
    (hsame : Network.SameKind (fun _ => False) n n') (hn' : n'.RangesOk)
    (hacc : Accounts idx T c.virtualNetIds (Owns idx n.getInterfaces.keys) n w n' w') :
    Ledger idx T base rejects (c.putNetwork k n') w' :=
  h.method hidx hbase hk hn hsame hn'
    ((h.has_tables k n hk).sameKind hsame fun _ hf => hf.elim) hacc (h.shape.put_old hk hsame)

theorem Ledger.of_networks {c' : NetworkController}
    (hc : c'.mNetworks = c.mNetworks) : Ledger idx T base rejects c' w := by
  have hget : c'.getNetworkLocked = c.getNetworkLocked := by
    funext k
    rw [getNetworkLocked, getNetworkLocked, hc]
  have hvpns : c'.virtualNetIds = c.virtualNetIds := by rw [virtualNetIds, virtualNetIds, hc]
  refine ⟨h.shape.of_networks hc, h.sound, fun fam => ?_, hget ▸ h.ranges_ok,
    hget ▸ h.has_tables, hget ▸ h.has_dummy⟩
  rw [h.balance fam, controllerItems, controllerItems, hvpns, itemsFor, itemsFor, hc]

end

end

end Netd
