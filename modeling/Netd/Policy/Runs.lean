import Netd.Policy.Service

/-!
# Runs of the service

`NetdNativeService.Run` has the runs in which every call returns 0, starting with
`RouteController::Init`. Between two calls the kernel may add, remove and renumber interfaces, but
an interface keeps the number under which netd knows it for as long as a network has it.
-/

namespace Netd

open NetworkController List RouteController UidRanges Call OrdMap
open RouteController (api)

namespace NetdNativeService

/-- The uid ranges a call passes. -/
def Op.ranges : Op → List UidRangeParcel
  | .network (.addUsersToNetwork _ ranges) => ranges
  | .network (.removeUsersFromNetwork _ ranges) => ranges
  | .networkRejectNonSecureVpn _ ranges => ranges
  | _ => []

/-- The ranges that are rejected after some calls, the last call first. -/
def rejected : List Op → Multiset UidRangeParcel
  | [] => 0
  | .networkRejectNonSecureVpn true ranges :: ops => rejected ops + ↑ranges
  | .networkRejectNonSecureVpn false ranges :: ops => rejected ops - ↑ranges
  | _ :: ops => rejected ops

/-- `w` is what `RouteController::Init` leaves, started on a kernel with any rules
and an empty mangle chain. -/
def Started (idx : String → Nat) (w : Routing) : Prop :=
  DistinctNumbers idx ∧ ∃ boot, Numbered idx boot ∧ (∀ fam, boot.mangle fam = []) ∧
    init localNetId boot = (0, w)

/-- The numbering changed, but not for the interfaces of networks. -/
structure Renumbers (c : NetworkController) (idx idx' : String → Nat) : Prop where
  distinct : DistinctNumbers idx'
  kept : ∀ k n, c.getNetworkLocked k = some n → ∀ i ∈ n.getInterfaces.keys, idx' i = idx i

/-- The runs from `w₀` in which every call returns 0: the numbering, the calls made, the last one
first, and the state reached. -/
inductive Run (idx₀ : String → Nat) (w₀ : Routing) :
    (String → Nat) → List Op → NetworkController × Routing → Prop where
  | start : Run idx₀ w₀ idx₀ [] (.new, w₀)
  | call {idx : String → Nat} {ops : List Op} {st st' : NetworkController × Routing} (op : Op) :
      Run idx₀ w₀ idx ops st → step op st = (0, st') → Run idx₀ w₀ idx (op :: ops) st'
  | interfaces {idx idx' : String → Nat} {ops : List Op} {c : NetworkController} {w : Routing}
      (ifIndex : String → Nat) :
      Run idx₀ w₀ idx ops (c, w) → Renumbers c idx idx' →
      Numbered idx' { w with ifIndex := ifIndex } →
      Run idx₀ w₀ idx' ops (c, { w with ifIndex := ifIndex })

/-- A sequence of calls that all return 0 is a run. -/
theorem Run.calls {idx₀ idx : String → Nat} {w₀ : Routing} {done : List Op}
    {st : NetworkController × Routing} (h : Run idx₀ w₀ idx done st) (ops : List Op)
    (hcode : (each step ops st).1 = 0) :
    Run idx₀ w₀ idx (ops.reverse ++ done) (each step ops st).2 := by
  induction ops generalizing done st with
  | nil => exact h
  | cons op ops ih =>
    obtain ⟨t, hop, hrest⟩ := each_ok_cons.mp (Prod.ext hcode rfl)
    have hcode' : (each step ops t).1 = 0 := congrArg Prod.fst hrest
    have hrun := ih (h.call op hop) hcode'
    rw [reverse_cons, append_assoc, ← congrArg Prod.snd hrest]
    exact hrun

/-! ## Changes of the numbering -/

section

variable {idx idx' : String → Nat} {T : Rule → Prop} {base : Family → Multiset Item}
  {rejects : Multiset UidRangeParcel} {c : NetworkController} {w w' : Routing}

theorem networkItems_renumber {n : Network} {vpns : List Nat}
    (h : ∀ i ∈ n.getInterfaces.keys, idx' i = idx i) :
    networkItems idx' vpns n = networkItems idx vpns n := by
  refine congrArg List.sum (map_congr_left fun i hi => ?_)
  have htable : tableOf idx' i = tableOf idx i := congrArg (· + _) (h i hi)
  cases n with
  | dummy d | «local» l => rfl
  | physical p => simp only [interfaceItems, physicalItems, defaultItems, htable]
  | virtual v => simp only [interfaceItems, virtualUidItems, virtualNonUidItems, htable]

theorem Renumbers.books (h : Books idx T base rejects c w) (hren : Renumbers c idx idx')
    (hnum : Numbered idx' w') (hsame : SameKernel w w') : Books idx' T base rejects c w' := by
  obtain ⟨hwf, hflags, hledger⟩ := h
  refine ⟨hwf, hflags, hledger.shape, ⟨hnum, fun fam x hx => ?_⟩, fun fam => ?_,
    hledger.ranges_ok, fun k n hk htype i hi => ?_, hledger.has_dummy⟩
  · rw [hsame.rules] at hx
    exact hledger.sound.tethering fam x hx
  · have hitems : controllerItems idx' c = controllerItems idx c :=
      congrArg List.sum (map_congr_left fun e he =>
        networkItems_renumber (hren.kept e.1 e.2 (find?_eq_some.mpr he)))
    rw [hitems, ← hledger.balance fam, policy, policy, hsame.rules, hsame.mangle]
  · rw [hren.kept k n hk i hi]
    exact hledger.has_tables k n hk htype i hi

theorem Renumbers.initBase (hbase : InitBase idx base) (hledger : Ledger idx T base rejects c w)
    (hren : Renumbers c idx idx') : InitBase idx' base := by
  obtain ⟨d, hd, hmem⟩ := hledger.has_dummy
  have htable : tableOf idx' dummyInterfaceName = tableOf idx dummyInterfaceName :=
    congrArg (· + _) (hren.kept dummyNetId _ hd dummyInterfaceName hmem)
  intro fam x hx
  rw [InitRule, htable]
  exact hbase fam x hx

end

/-! ## The ledger along a run -/

/-- Tethering rules come from calls that added them. -/
def Tethered (ops : List Op) (x : Rule) : Prop :=
  ∃ fromIface toIface, Op.ipfwdAddInterfaceForward fromIface toIface ∈ ops ∧ x.iif = some fromIface

/-- No call passed the range that stands for no range. -/
def Admissible (ops : List Op) : Prop := ∀ op ∈ ops, ∀ r ∈ op.ranges, r.NotSentinel

instance (ops : List Op) : Decidable (Admissible ops) :=
  inferInstanceAs (Decidable (∀ op ∈ ops, ∀ r ∈ op.ranges, r.NotSentinel))

/-- The ledger after some calls. -/
structure Accounted (w₀ : Routing) (idx : String → Nat) (ops : List Op)
    (st : NetworkController × Routing) : Prop where
  distinct : DistinctNumbers idx
  initBase : InitBase idx (policy w₀)
  rejects_ok : ∀ r ∈ rejected ops, r.start ≠ invalidUid
  books : Books idx (Tethered ops) (policy w₀) (rejected ops) st.1 st.2

section

variable {idx idx' idx₀ : String → Nat} {w₀ w w' : Routing} {ops : List Op} {c : NetworkController}
  {st st' : NetworkController × Routing} {vpns : List Nat}

theorem Tethered.cons {x : Rule} (op : Op) (h : Tethered ops x) : Tethered (op :: ops) x := by
  obtain ⟨i, o, hmem, hiif⟩ := h
  exact ⟨i, o, mem_cons_of_mem _ hmem, hiif⟩

/-- An operation of the controller. -/
theorem step_books {T : Rule → Prop} {base : Family → Multiset Item}
    {rejects : Multiset UidRangeParcel} (hidx : DistinctNumbers idx) (hbase : InitBase idx base)
    (op : NetworkController.Op) (hop : ∀ r ∈ (Op.network op).ranges, r.NotSentinel) :
    KeepsBooks idx T base rejects (NetworkController.step api op) := by
  cases op with
  | createPhysicalNetwork netId permission => exact createPhysicalNetwork_books netId permission
  | createPhysicalOemNetwork permission => exact createPhysicalOemNetwork_books permission
  | createVirtualNetwork netId secure => exact createVirtualNetwork_books hidx hbase netId secure
  | destroyNetwork netId => exact destroyNetwork_books hidx hbase netId
  | addInterfaceToNetwork netId i => exact addInterfaceToNetwork_books hidx hbase netId i
  | removeInterfaceFromNetwork netId i =>
    exact removeInterfaceFromNetwork_books hidx hbase netId i
  | setDefaultNetwork netId => exact setDefaultNetwork_books hidx hbase netId
  | setPermissionForNetworks permission netIds =>
    exact setPermissionForNetworks_books hidx hbase permission netIds
  | addUsersToNetwork netId ranges =>
    exact addUsersToNetwork_books hidx hbase netId fun r hr =>
      hop r (mem_ofRanges.mp hr)
  | removeUsersFromNetwork netId ranges =>
    exact removeUsersFromNetwork_books hidx hbase netId fun r hr =>
      hop r (mem_ofRanges.mp hr)
  | modifyRoute netId i add legacy uid => exact modifyRoute_books netId i add legacy uid
  | setPermissionForUsers permission uids =>
    intro c w c' w' h hm
    cases hm
    exact h.of_networks rfl rfl
  | addInterfaceAddress ifIndex address =>
    intro c w c' w' h hm
    simp only [NetworkController.step, addInterfaceAddress] at hm
    split at hm
    · cases hm
      exact h
    · cases hm
      exact h.of_networks rfl rfl
  | removeInterfaceAddress ifIndex address =>
    intro c w c' w' h hm
    cases hm
    obtain ⟨hn, hd⟩ := removeInterfaceAddressLocked_networks c ifIndex address
    exact h.of_networks hn hd
  | allowProtect uids | denyProtect uids =>
    intro c w c' w' h hm
    cases hm
    exact h.of_networks rfl rfl

theorem Accounted.step (h : Accounted w₀ idx ops st) {op : Op}
    (hop : ∀ r ∈ op.ranges, r.NotSentinel) (hm : step op st = (0, st')) :
    Accounted w₀ idx (op :: ops) st' := by
  obtain ⟨c, w⟩ := st
  obtain ⟨c', w'⟩ := st'
  have hbooks := h.books.mono fun x => Tethered.cons op
  cases op with
  | network op =>
    exact ⟨h.distinct, h.initBase, h.rejects_ok,
      step_books h.distinct h.initBase op hop c w c' w' hbooks hm⟩
  | networkRejectNonSecureVpn add ranges =>
    obtain ⟨rfl, hcall⟩ := onSnd_ok.mp hm
    have hr : ∀ r ∈ (ofRanges ranges).bag, r.NotSentinel := fun r hmem =>
      hop r (mem_ofRanges.mp hmem)
    cases add with
    | true =>
      have hne := modifyRejectNonSecureNetworkRule_ranges hr hcall
      have hnew := addUsersToRejectNonSecureNetworkRule_books hbooks hcall
      rw [bag_ofRanges] at hnew
      refine ⟨h.distinct, h.initBase, fun r hmem => ?_, hnew⟩
      rcases Multiset.mem_add.mp hmem with hold | hadded
      · exact h.rejects_ok r hold
      · exact hne r (mem_ofRanges.mpr hadded)
    | false =>
      have hnew := removeUsersFromRejectNonSecureNetworkRule_books hbooks h.initBase
        h.rejects_ok hr hcall
      rw [bag_ofRanges] at hnew
      exact ⟨h.distinct, h.initBase,
        fun r hmem => h.rejects_ok r (Multiset.mem_of_le (Multiset.sub_le_self ..) hmem), hnew⟩
  | ipfwdAddInterfaceForward fromIface toIface =>
    obtain ⟨rfl, hcall⟩ := onSnd_ok.mp hm
    have hadd : modifyTetheredNetwork (.ofAdd true) fromIface toIface w =
      (0, w') := hcall
    exact ⟨h.distinct, h.initBase, h.rejects_ok, modifyTetheredNetwork_books hbooks
      (fun _ t => ⟨fromIface, toIface, mem_cons_self, rfl⟩) hadd⟩
  | ipfwdRemoveInterfaceForward fromIface toIface =>
    obtain ⟨rfl, hcall⟩ := onSnd_ok.mp hm
    have hdel : modifyTetheredNetwork (.ofAdd false) fromIface toIface w =
      (0, w') := hcall
    exact ⟨h.distinct, h.initBase, h.rejects_ok,
      modifyTetheredNetwork_books hbooks (fun hf => by cases hf) hdel⟩

theorem Run.accounted (h0 : Started idx₀ w₀) (hrun : Run idx₀ w₀ idx ops st)
    (hops : Admissible ops) : Accounted w₀ idx ops st := by
  induction hrun with
  | start =>
    obtain ⟨hidx, boot, hnum, hmarks, hinit⟩ := h0
    have hstart := init_starting hnum hmarks hinit
    exact ⟨hidx, hstart.initBase, fun r hr => absurd hr (Multiset.notMem_zero r), hstart.books _⟩
  | call op _ hstep ih =>
    have hrest := ih fun op' hop' => hops op' (mem_cons_of_mem _ hop')
    exact hrest.step (hops op mem_cons_self) hstep
  | interfaces ifIndex _ hren hnum ih =>
    have hacc := ih hops
    exact ⟨hren.distinct, hren.initBase hacc.initBase hacc.books.ledger, hacc.rejects_ok,
      hren.books hacc.books hnum ⟨rfl, rfl⟩⟩

/-! ## The policy as a function of the state -/

/-- The items that follow from a network alone. -/
def ownItems (idx : String → Nat) : Network → Multiset Item
  | .physical p =>
    (p.mInterfaces.keys.map fun i => physicalItems idx p.mNetId i p.mPermission).sum
  | .virtual v =>
    (v.mInterfaces.keys.map fun i =>
      virtualUidItems idx v.mNetId i v.mSecure v.mUidRanges.bag +
        virtualNonUidItems idx v.mNetId i v.mSecure).sum
  | .local l => (l.mInterfaces.keys.map fun i => localItems l.mNetId i).sum
  | .dummy _ => 0

/-- The items of the default network: for each interface a default rule, and a fallthrough rule for
each VPN. -/
def defaultNetworkItems (idx : String → Nat) (c : NetworkController) : Multiset Item :=
  match c.getNetworkLocked c.mDefaultNetId with
  | some (.physical p) =>
    (p.mInterfaces.keys.map fun i => defaultItems idx i c.virtualNetIds p.mPermission).sum
  | _ => 0

/-- The items that a controller should have in the policy. -/
def expectedItems (idx : String → Nat) (c : NetworkController) : Multiset Item :=
  (c.mNetworks.entries.map fun e => ownItems idx e.2).sum + defaultNetworkItems idx c

theorem networkItems_eq_ownItems {n : Network} (h : n.isDefault = false) :
    networkItems idx vpns n = ownItems idx n := by
  cases n with
  | dummy d => exact sum_eq_zero fun x hx => (mem_map.mp hx).elim fun _ hi => hi.2.symm
  | «local» l | virtual v => rfl
  | physical p =>
    have hd : p.mIsDefault = false := h
    refine congrArg List.sum (map_congr_left fun i _ => ?_)
    rw [interfaceItems, hd, if_neg Bool.false_ne_true, zero_add]

theorem networkItems_default {p : PhysicalNetwork} (h : p.mIsDefault = true) :
    networkItems idx vpns (.physical p) = ownItems idx (.physical p) +
      (p.mInterfaces.keys.map fun i => defaultItems idx i vpns p.mPermission).sum := by
  rw [ownItems, add_comm, ← sum_map_add]
  refine congrArg List.sum (map_congr_left fun i _ => ?_)
  rw [interfaceItems, if_pos h]

theorem controllerItems_eq_expectedItems (hwf : WellFormed c)
    (hflags : Flags c [c.mDefaultNetId]) : controllerItems idx c = expectedItems idx c := by
  have hown : ∀ k n, c.getNetworkLocked k = some n → k ≠ c.mDefaultNetId →
      networkItems idx c.virtualNetIds n = ownItems idx n := fun k n hk hne =>
    networkItems_eq_ownItems (Bool.eq_false_iff.mpr fun hf =>
      hne (mem_singleton.mp (hflags k n hk hf)))
  rcases hwf.default_ok with hunset | ⟨p, hp, hflag⟩
  · have hnone : ∀ k n, c.getNetworkLocked k = some n → k ≠ c.mDefaultNetId := by
      intro k n hk heq
      exact hwf.toShape.ne_unset hk (heq.trans hunset)
    have hzero : defaultNetworkItems idx c = 0 := by
      rw [defaultNetworkItems]
      split
      · next p hp => exact absurd rfl (hnone _ _ hp)
      · rfl
    rw [expectedItems, hzero, add_zero]
    exact congrArg List.sum (map_congr_left fun e he =>
      have hk := find?_eq_some.mpr he
      hown e.1 e.2 hk (hnone e.1 e.2 hk))
  · have hothers : otherItems idx c.virtualNetIds c c.mDefaultNetId =
        ((c.mNetworks.erase c.mDefaultNetId).entries.map fun e => ownItems idx e.2).sum := by
      refine congrArg List.sum (map_congr_left fun e he => ?_)
      obtain ⟨hmem, hne⟩ := mem_erase.mp he
      exact hown e.1 e.2 (find?_eq_some.mpr hmem) hne
    have hsum : (c.mNetworks.entries.map fun e => ownItems idx e.2).sum =
        ownItems idx (.physical p) +
          ((c.mNetworks.erase c.mDefaultNetId).entries.map fun e => ownItems idx e.2).sum :=
      ((perm_erase hp).map _).sum_eq
    have hdefault : defaultNetworkItems idx c =
        (p.mInterfaces.keys.map fun i => defaultItems idx i c.virtualNetIds p.mPermission).sum := by
      rw [defaultNetworkItems, hp]
    rw [controllerItems, itemsFor_split hp, networkItems_default hflag, hothers, expectedItems,
      hsum, hdefault]
    ac_rfl

/-- In every run the policy is what `Init` left, what the controller asks for, and the prohibit
rules. -/
theorem policy_eq_expectedItems (h₀ : Started idx₀ w₀) (hrun : Run idx₀ w₀ idx ops st)
    (hops : Admissible ops) (fam : Family) :
    (∀ x ∈ policy w₀ fam, ∃ r, x = .rule r ∧ InitRule idx r) ∧
      policy st.2 fam = policy w₀ fam + expectedItems idx st.1 + rejectItems (rejected ops) := by
  have hacc := Run.accounted h₀ hrun hops
  refine ⟨fun x hx => ?_, ?_⟩
  · cases x with
    | rule r => exact ⟨r, rfl, hacc.initBase fam r hx⟩
    | mark m =>
      obtain ⟨_, boot, hnum, hmarks, hinit⟩ := h₀
      have hnone := (init_starting hnum hmarks hinit).no_marks fam
      simp [policy, hnone] at hx
  · rw [hacc.books.ledger.balance fam]
    refine congrArg (policy w₀ fam + · + _) ?_
    exact controllerItems_eq_expectedItems hacc.books.wellFormed hacc.books.flags

end

/-! ### A run -/

/-- Three interfaces, numbered as the kernel would. -/
def threeInterfaces (i : String) : Nat :=
  if i = "wlan0" then 10 else if i = "rmnet0" then 11 else if i = "tun0" then 12 else 0

theorem threeInterfaces_distinct : DistinctNumbers threeInterfaces := by
  intro i j heq hne
  simp only [threeInterfaces] at heq hne
  split at heq
  · rename_i hi
    split at heq
    · next hj => exact hi.trans hj.symm
    split at heq
    · cases heq
    · split at heq <;> cases heq
  · split at heq
    · rename_i hi
      split at heq
      · cases heq
      split at heq
      · next hj => exact hi.trans hj.symm
      · split at heq <;> cases heq
    · split at heq
      · rename_i hi
        split at heq
        · cases heq
        split at heq
        · cases heq
        split at heq
        · next hj => exact hi.trans hj.symm
        · cases heq
      · next h1 h2 h3 => simp [h1, h2, h3] at hne

def bareKernel : Routing where
  rules _ := ⟨[], .nil⟩
  mangle _ := []
  ifIndex := threeInterfaces
  sInterfaceToTable := .empty
  faults := []

/-- What `Init` leaves there. -/
def afterInit : Routing := (init localNetId bareKernel).2

theorem started_afterInit : Started threeInterfaces afterInit := by
  refine ⟨threeInterfaces_distinct, bareKernel, ⟨fun _ => .inr rfl, fun i t _ ht => ?_⟩,
    fun _ => rfl, ?_⟩
  · cases ht
  · exact Prod.ext (show (init localNetId bareKernel).1 = 0 by decide) rfl

/-- The default network changes its permission and is replaced while a VPN is up. -/
def switchUnderVpn : List Op :=
  [.network (.createPhysicalNetwork 100 .none), .network (.addInterfaceToNetwork 100 "wlan0"),
    .network (.setDefaultNetwork 100), .network (.createVirtualNetwork 101 true),
    .network (.addInterfaceToNetwork 101 "tun0"),
    .network (.addUsersToNetwork 101 [⟨10000#32, 10010#32⟩]),
    .network (.setPermissionForNetworks .network [100]),
    .network (.createPhysicalNetwork 102 .none), .network (.addInterfaceToNetwork 102 "rmnet0"),
    .network (.setDefaultNetwork 102), .network (.destroyNetwork 100)]

def switched : NetworkController × Routing := (Call.each step switchUnderVpn (.new, afterInit)).2

theorem policy_eq_expectedItems_switched :
    (Call.each step switchUnderVpn (.new, afterInit)).1 = 0 ∧ switched.1.mDefaultNetId = 102 ∧
      policy switched.2 .inet6 =
        policy afterInit .inet6 + expectedItems threeInterfaces switched.1 + rejectItems 0 := by
  have hcode : (each step switchUnderVpn (.new, afterInit)).1 = 0 := by decide +kernel
  have hstart : Run threeInterfaces afterInit threeInterfaces [] (.new, afterInit) := .start
  have hrun := hstart.calls switchUnderVpn hcode
  have hnone : rejected (switchUnderVpn.reverse ++ []) = 0 := rfl
  rw [← switched] at hrun
  refine ⟨hcode, by decide +kernel, ?_⟩
  rw [← hnone]
  exact (policy_eq_expectedItems started_afterInit hrun (by decide) .inet6).2

end NetdNativeService

end Netd
