import Netd.Policy.Ledger

/-!
# Operations keep the ledger balanced

One lemma for each operation of the controller that succeeds. Most operations call one method of
one network and are instances of `Books.method`. `Books` is the invariant: a well formed
controller, a balanced ledger, and no default flag but that of the default network.
-/

namespace Netd

open Call OrdMap

open RouteController (api)
open NetworkController List PhysicalNetwork Network VirtualNetwork

/-- Only the networks `ds` have the default flag. -/
def Flags (c : NetworkController) (ds : List Nat) : Prop :=
  ∀ k n, c.getNetworkLocked k = some n → n.isDefault = true → k ∈ ds

/-- The invariant of a controller whose operations all succeeded. -/
structure Books (idx : String → Nat) (T : Rule → Prop) (base : Family → Multiset Item)
    (rejects : Multiset UidRangeParcel) (c : NetworkController) (w : Routing) : Prop where
  wellFormed : WellFormed c
  flags : Flags c [c.mDefaultNetId]
  ledger : Ledger idx T base rejects c w

/-- A successful run of `m` keeps the invariant. -/
def KeepsBooks (idx : String → Nat) (T : Rule → Prop) (base : Family → Multiset Item)
    (rejects : Multiset UidRangeParcel) (m : Call (NetworkController × Routing)) : Prop :=
  ∀ c w c' w', Books idx T base rejects c w → m (c, w) = (0, (c', w')) →
    Books idx T base rejects c' w'

section

variable {idx : String → Nat} {T : Rule → Prop} {base : Family → Multiset Item}
  {rejects : Multiset UidRangeParcel} {c c' : NetworkController} {w w' : Routing} {k : Nat}

/-! ## Shared steps -/

theorem onNetwork_ok {ν : Type} {wrap : ν → Network} {n : ν} {m : Call (ν × Routing)}
    (h : onNetwork wrap k n m (c, w) = (0, (c', w'))) :
    ∃ n', c' = c.putNetwork k (wrap n') ∧ m (n, w) = (0, (n', w')) := by
  have hcode := congrArg Prod.fst h
  have hctrl := congrArg (fun r => r.2.1) h
  have hstate := congrArg (fun r => r.2.2) h
  exact ⟨(m (n, w)).2.1, hctrl.symm, Prod.ext hcode (Prod.ext rfl hstate)⟩

variable {vpns vpns' : List Nat} {n n' : Network} {p : PhysicalNetwork} {netId vpn : Nat}
  {p' : PhysicalNetwork}

theorem Flags.put {ds ds' : List Nat} (h : Flags c ds) (hn : n.isDefault = true → k ∈ ds')
    (hds : ∀ d ∈ ds, d ≠ k → d ∈ ds') : Flags (c.putNetwork k n) ds' := by
  intro k2 n2 hk2 hflag
  rw [getNetworkLocked_put] at hk2
  split at hk2
  · rename_i hkey
    cases hk2
    exact hkey ▸ hn hflag
  · next hkey => exact hds k2 (h k2 n2 hk2 hflag) hkey

theorem Flags.evolve {ds : List Nat} (h : Flags c ds) (hk : c.getNetworkLocked k = some n)
    (heq : n'.isDefault = n.isDefault) : Flags (c.putNetwork k n') ds :=
  h.put (fun hflag => h k n hk (heq ▸ hflag)) fun _ hd _ => hd

section

variable (h : Books idx T base rejects c w)
include h

theorem Books.not_default (hk : c.getNetworkLocked k = some n)
    (hne : k ≠ c.mDefaultNetId) : n.isDefault = false :=
  Bool.eq_false_iff.mpr fun hf => hne (mem_singleton.mp (h.flags k n hk hf))

theorem Books.of_networks (hn : c'.mNetworks = c.mNetworks)
    (hd : c'.mDefaultNetId = c.mDefaultNetId) : Books idx T base rejects c' w := by
  refine ⟨h.wellFormed.of_networks hn hd, fun k n hk => ?_, h.ledger.of_networks hn⟩
  rw [getNetworkLocked, hn] at hk
  rw [hd]
  exact h.flags k n hk

theorem Books.of_steady (hw : Steady idx T (policy w) w') : Books idx T base rejects c w' := by
  obtain ⟨hwf, hflags, hledger⟩ := h
  exact ⟨hwf, hflags, { hledger with
    sound := hw.1
    balance := fun fam => (hw.2 fam).trans (hledger.balance fam) }⟩

end

section

variable {n n' : Network}

/-- A method of a network that brings no interface and leaves its flag alone. -/
theorem Books.method (h : Books idx T base rejects c w) (hidx : DistinctNumbers idx)
    (hbase : InitBase idx base) (hk : c.getNetworkLocked k = some n) (hn : n.getType ≠ .dummy)
    (hevo : Network.Evolves (fun _ => False) n n') (hn' : n'.RangesOk)
    (hacc : Accounts idx T c.virtualNetIds (Owns idx n.getInterfaces.keys) n w n' w') :
    Books idx T base rejects (c.putNetwork k n') w' :=
  ⟨h.wellFormed.evolve hk hevo, h.flags.evolve hk hevo.default_eq,
    h.ledger.method_old hidx hbase hk hn hevo.toSameKind hn' hacc⟩

variable {vpns : List Nat}

theorem networkItems_empty (h : n.getInterfaces.keys = []) : networkItems idx vpns n = 0 := by
  rw [networkItems, h]
  rfl

/-- A new network without interfaces, under a free netId. -/
theorem Ledger.enter (h : Ledger idx T base rejects c w) (hfree : c.getNetworkLocked k = none)
    (hempty : n.getInterfaces.keys = []) (hn : n.RangesOk) (hshape : Shape (c.putNetwork k n))
    (hsound : Sound idx T w') (hbal : ∀ fam, policy w' fam =
      base fam + itemsFor idx (c.putNetwork k n).virtualNetIds c + rejectItems rejects) :
    Ledger idx T base rejects (c.putNetwork k n) w' := by
  refine ⟨hshape, hsound, fun fam => ?_, forall_insert h.ranges_ok hn,
    forall_insert h.has_tables ?_, ?_⟩
  · rw [hbal fam, controllerItems, itemsFor_put, networkItems_empty hempty, zero_add, otherItems,
      erase_of_find?_none hfree]
    rfl
  · intro _ i hi
    rw [hempty] at hi
    cases hi
  · obtain ⟨d, hd, hmem⟩ := h.has_dummy
    refine ⟨d, ?_, hmem⟩
    rw [getNetworkLocked_put, if_neg]
    · exact hd
    · rintro rfl
      rw [hd] at hfree
      cases hfree

/-- A network without interfaces goes. -/
theorem Ledger.erase (h : Ledger idx T base rejects c w) (hk : c.getNetworkLocked k = some n)
    (hempty : n.getInterfaces.keys = []) (hn : n.getType ≠ .dummy) (hlocal : k ≠ localNetId)
    (hsound : Sound idx T w') (hbal : ∀ fam, policy w' fam =
      base fam + itemsFor idx (c.eraseNetwork k).virtualNetIds c + rejectItems rejects) :
    Ledger idx T base rejects (c.eraseNetwork k) w' := by
  have hget : ∀ k2 n2, (c.eraseNetwork k).getNetworkLocked k2 = some n2 →
      c.getNetworkLocked k2 = some n2 := fun _ _ hk2 => (getNetworkLocked_of_erase hk2).2
  refine ⟨h.shape.erase hlocal, hsound, fun fam => ?_,
    fun k2 n2 hk2 => h.ranges_ok k2 n2 (hget k2 n2 hk2),
    fun k2 n2 hk2 => h.has_tables k2 n2 (hget k2 n2 hk2), ?_⟩
  · rw [hbal fam, itemsFor_split hk, networkItems_empty hempty, zero_add]
    rfl
  · obtain ⟨d, hd, hmem⟩ := h.has_dummy
    refine ⟨d, ?_, hmem⟩
    rw [getNetworkLocked_erase, if_neg]
    · exact hd
    · rintro rfl
      rw [hd] at hk
      cases hk
      exact hn rfl

theorem Network.removeInterface_not_dummy {i : String}
    (h : removeInterface api vpns i (n, w) = (0, (n', w'))) : n.getType ≠ .dummy := by
  intro hd
  cases n with
  | dummy d => cases h
  | «local» l | physical p | virtual v => cases hd

end

/-! ## Interfaces -/

theorem Network.addInterface_idx {i : String} (hn : n.HasTables idx) (hw : Sound idx T w)
    (h : addInterface api vpns i (n, w) = (0, (n', w')))
    (htype : n.getType = .physical ∨ n.getType = .virtual) : idx i ≠ 0 := by
  cases n with
  | dummy d => cases h
  | «local» l => rcases htype with hd | hd <;> cases hd
  | physical p =>
    obtain ⟨p', rfl, hm⟩ := dispatch_ok h
    simp only [PhysicalNetwork.addInterface] at hm
    split at hm
    · next hhas => exact hn htype i (contains_iff.mp hhas)
    obtain ⟨t, hadd, _⟩ := andThen_ok.mp (commit_ok.mp hm).2
    have hrun : RouteController.modifyPhysicalNetwork p.mNetId i p.mPermission true w =
      (0, t) := hadd
    exact withTable_idx hw hrun
  | virtual v =>
    obtain ⟨v', rfl, hm⟩ := dispatch_ok h
    simp only [VirtualNetwork.addInterface] at hm
    split at hm
    · next hhas => exact hn htype i (contains_iff.mp hhas)
    have hrun : RouteController.modifyVirtualNetwork v.mNetId i v.mUidRanges v.mSecure true true
        w = (0, w') := (commit_ok.mp hm).2
    exact withTable_idx hw hrun

section

variable (hidx : DistinctNumbers idx) (hbase : InitBase idx base)
include hidx hbase

section

variable (netId : Nat) {ranges : UidRanges}

theorem addInterfaceToNetwork_books (i : String) :
    KeepsBooks idx T base rejects (addInterfaceToNetwork api netId i) := by
  intro c w c' w' h hm
  simp only [addInterfaceToNetwork] at hm
  split at hm
  · cases hm
  rename_i n hn
  split at hm
  · cases hm
  rename_i hfree
  have hwf := h.wellFormed.addInterface api w hn hfree
  have hevo := addInterface_evolves api c.virtualNetIds i n w
  rcases hmethod : addInterface api c.virtualNetIds i (n, w) with ⟨ret, n', w1⟩
  rw [hmethod] at hwf hevo
  simp only [onNetwork, hmethod] at hm
  split at hm
  · rename_i hret
    cases hm
    exact absurd rfl hret
  rename_i hret
  cases not_not.mp hret
  obtain ⟨hranges, hacc⟩ := addInterface_accounts (h.ledger.ranges_ok netId n hn) hmethod
  have hnum := addInterface_idx (h.ledger.has_tables netId n hn) h.ledger.sound hmethod
  have hbooks : Books idx T base rejects (c.putNetwork netId n') w1 :=
    ⟨hwf, h.flags.evolve hn hevo.default_eq, h.ledger.method hidx hbase hn
      (fun hd => by cases n <;> cases hd; cases hmethod) hevo.toSameKind hranges
      ((h.ledger.has_tables netId n hn).sameKind hevo.toSameKind
        fun j hj => hj ▸ hnum) hacc hwf.toShape⟩
  split at hm
  · cases hm
    exact hbooks.of_networks rfl rfl
  · cases hm
    exact hbooks

theorem removeInterfaceFromNetwork_books (i : String) :
    KeepsBooks idx T base rejects (removeInterfaceFromNetwork api netId i) := by
  intro c w c' w' h hm
  simp only [removeInterfaceFromNetwork] at hm
  split at hm
  · cases hm
  rename_i n hn
  obtain ⟨n', rfl, hmethod⟩ := onNetwork_ok hm
  have hevo := removeInterface_evolves api c.virtualNetIds i n w fun _ => False
  rw [hmethod] at hevo
  obtain ⟨hranges, hacc⟩ := removeInterface_accounts hidx (h.ledger.ranges_ok netId n hn) hmethod
  exact h.method hidx hbase hn (removeInterface_not_dummy hmethod) hevo hranges hacc

/-! ## Users and permissions -/

theorem addUsersToNetwork_books (hr : ∀ r ∈ ranges.bag, r.NotSentinel) :
    KeepsBooks idx T base rejects (addUsersToNetwork api netId ranges) := by
  intro c w c' w' h hm
  simp only [addUsersToNetwork] at hm
  split at hm
  · cases hm
  · rename_i v hv
    obtain ⟨v', rfl, hmethod⟩ := onNetwork_ok hm
    have hevo := addUsers_evolves api ranges v w fun _ => False
    rw [hmethod] at hevo
    obtain ⟨hranges, hacc⟩ := addUsers_accounts hidx (h.ledger.ranges_ok netId _ hv) hr hmethod
    exact h.method hidx hbase hv (fun hd => by cases hd) hevo hranges hacc
  · cases hm

theorem removeUsersFromNetwork_books (hr : ∀ r ∈ ranges.bag, r.NotSentinel) :
    KeepsBooks idx T base rejects (removeUsersFromNetwork api netId ranges) := by
  intro c w c' w' h hm
  simp only [removeUsersFromNetwork] at hm
  split at hm
  · cases hm
  · rename_i v hv
    obtain ⟨v', rfl, hmethod⟩ := onNetwork_ok hm
    have hevo := removeUsers_evolves api ranges v w fun _ => False
    rw [hmethod] at hevo
    obtain ⟨hranges, hacc⟩ := removeUsers_accounts hidx (h.ledger.ranges_ok netId _ hv) hr hmethod
    exact h.method hidx hbase hv (fun hd => by cases hd) hevo hranges hacc
  · cases hm

end

theorem setPermissionForNetworks_books (permission : Permission) (netIds : List Nat) :
    KeepsBooks idx T base rejects (setPermissionForNetworks api permission netIds) := by
  intro c w c' w' h hm
  refine each_ok_induct (P := fun (_ : List Nat) (st : NetworkController × Routing) =>
    Books idx T base rejects st.1 st.2) ?_ h hm
  rintro netId _ ⟨c, w⟩ ⟨c', w'⟩ h hm
  dsimp only at hm
  split at hm
  · cases hm
  · rename_i p hp
    obtain ⟨p', rfl, hmethod⟩ := onNetwork_ok hm
    have hevo := setPermission_evolves api c.virtualNetIds permission p w fun _ => False
    rw [hmethod] at hevo
    exact h.method hidx hbase hp (fun hd => by cases hd) hevo trivial
      (setPermission_accounts hidx hmethod)
  · cases hm

end

/-! ## Fallthrough rules of the default network -/

/-- The items of a default network for one more VPN. -/
theorem interfaceItems_default_perm (hp : p.mIsDefault = true) (h : vpns'.Perm (vpn :: vpns))
    (i : String) :
    interfaceItems idx vpns' (.physical p) i =
      interfaceItems idx vpns (.physical p) i +
        items [vpnFallthroughRule vpn (tableOf idx i) p.mPermission] [] := by
  rw [interfaceItems, interfaceItems, if_pos hp, if_pos hp, defaultItems_perm h]
  ac_rfl

/-- One round of `modifyFallthroughLocked`. -/
theorem modifyFallthrough_replaces (hp : p.mIsDefault = true) (h : vpns'.Perm (vpn :: vpns))
    (add : Bool) (i : String) :
    Replaces policy (Sound idx T) (About idx i)
      (interfaceItems idx (if add then vpns else vpns') (.physical p) i)
      (interfaceItems idx (if add then vpns' else vpns) (.physical p) i)
      (if add then api.addVirtualNetworkFallthrough vpn i p.mPermission
        else api.removeVirtualNetworkFallthrough vpn i p.mPermission) := by
  cases add with
  | true =>
    show Replaces _ _ _ (interfaceItems idx vpns _ i) (interfaceItems idx vpns' _ i) _
    rw [interfaceItems_default_perm hp h i]
    exact addVirtualNetworkFallthrough_replaces
  | false =>
    show Replaces _ _ _ (interfaceItems idx vpns' _ i) (interfaceItems idx vpns _ i) _
    rw [interfaceItems_default_perm hp h i]
    refine removeVirtualNetworkFallthrough_replaces ?_
    rw [interfaceItems, if_pos hp]
    exact besideDefault_defaultItems.add besideDefault_physicalItems

/-- Only the default network has rules for VPNs. -/
theorem Books.default_split (h : Books idx T base rejects c w)
    (hp : c.getNetworkLocked c.mDefaultNetId = some (.physical p)) (vpns vs : List Nat)
    (fam : Family) :
    base fam + itemsFor idx vs c + rejectItems rejects =
      restItems idx base rejects vpns c c.mDefaultNetId fam +
        networkItems idx vs (.physical p) := by
  have hother : otherItems idx vs c c.mDefaultNetId = otherItems idx vpns c c.mDefaultNetId :=
    otherItems_not_default fun k n => h.not_default
  rw [itemsFor_split hp, restItems, hother]
  ac_rfl

/-- `modifyFallthroughLocked` brings the default network to one more VPN, or to
one less. -/
theorem modifyFallthroughLocked_balance (h : Books idx T base rejects c w)
    (hidx : DistinctNumbers idx) (hbase : InitBase idx base) {add : Bool}
    (hperm : vpns'.Perm (vpn :: vpns)) (hvpns : (if add then vpns else vpns').Perm c.virtualNetIds)
    (hm : modifyFallthroughLocked api vpn add (c, w) = (0, (c', w'))) :
    Sound idx T w' ∧ ∀ fam, policy w' fam =
      base fam + itemsFor idx (if add then vpns' else vpns) c + rejectItems rejects := by
  have hbal : ∀ fam, policy w fam =
      base fam + itemsFor idx (if add then vpns else vpns') c + rejectItems rejects := by
    intro fam
    rw [h.ledger.balance fam, controllerItems, itemsFor_vpns_perm hvpns]
  simp only [modifyFallthroughLocked] at hm
  split at hm
  · rename_i hunset
    cases hm
    refine ⟨h.ledger.sound, fun fam => ?_⟩
    rw [hbal fam, itemsFor_not_default]
    intro k n hk
    exact h.not_default hk fun heq => h.ledger.shape.ne_unset hk (heq.trans hunset)
  · rename_i hset
    obtain ⟨p, hp, hflag⟩ := h.wellFormed.default_ok.resolve_left hset
    rw [hp] at hm
    obtain ⟨-, hrun⟩ := onSnd_ok.mp hm
    have hloop := replaces_eachInterface (T := T) hidx p.mInterfaces.keys_nodup
      (fun i _ => belongs_physical p i) (fun i _ => belongs_physical p i)
      fun i _ => modifyFallthrough_replaces hflag hperm add i
    obtain ⟨hsound, hnew⟩ := hloop.spec (restItems idx base rejects vpns c c.mDefaultNetId) w w'
      (h.ledger.clear hidx hbase hp (fun hd => by cases hd) vpns) h.ledger.sound
      (fun fam => (hbal fam).trans (h.default_split hp vpns _ fam)) hrun
    exact ⟨hsound, fun fam => (hnew fam).trans (h.default_split hp vpns _ fam).symm⟩

/-! ## Creating networks -/

/-- The new network of `createPhysicalNetwork` has no interfaces, so nothing is
sent for its permission. -/
theorem PhysicalNetwork.setPermission_new {permission : Permission} (w : Routing) :
    PhysicalNetwork.setPermission api vpns permission (.new netId, w) =
      (0, ({ PhysicalNetwork.new netId with mPermission := permission }, w)) := by
  simp only [PhysicalNetwork.setPermission]
  split
  · next heq => rw [heq]
  · exact if_pos rfl

theorem createPhysicalNetwork_books (netId : Nat) (permission : Permission) :
    KeepsBooks idx T base rejects (createPhysicalNetwork api netId permission) := by
  intro c w c' w' h hm
  have hwf := createPhysicalNetwork_keeps api netId permission (c, w) h.wellFormed
  rw [hm] at hwf
  simp only [createPhysicalNetwork, setPermission_new] at hm
  split at hm
  · cases hm
  split at hm
  · cases hm
  rename_i hval
  have hfree := isValidNetworkLocked_eq_false.mp (Bool.eq_false_iff.mpr hval)
  cases hm
  refine ⟨hwf, h.flags.put (fun hflag => by cases hflag) fun _ hd _ => hd, ?_⟩
  refine h.ledger.enter hfree rfl trivial hwf.toShape h.ledger.sound fun fam => ?_
  have hvpns : ∀ p, (c.putNetwork netId (.physical p)).virtualNetIds.Perm c.virtualNetIds :=
    fun p => virtualNetIds_enter hfree
  rw [h.ledger.balance fam, controllerItems, itemsFor_vpns_perm (hvpns _).symm]

theorem createPhysicalOemNetwork_books (permission : Permission) :
    KeepsBooks idx T base rejects (createPhysicalOemNetwork api permission) := by
  intro c w c' w' h hm
  simp only [createPhysicalOemNetwork] at hm
  split at hm
  · cases hm
  · exact createPhysicalNetwork_books _ permission c w c' w' h hm

theorem createVirtualNetwork_books (hidx : DistinctNumbers idx) (hbase : InitBase idx base)
    (netId : Nat) (secure : Bool) :
    KeepsBooks idx T base rejects (createVirtualNetwork api netId secure) := by
  intro c w c' w' h hm
  have hwf := createVirtualNetwork_keeps api netId secure (c, w) h.wellFormed
  rw [hm] at hwf
  simp only [createVirtualNetwork] at hm
  split at hm
  · cases hm
  split at hm
  · cases hm
  rename_i hval
  have hfree := isValidNetworkLocked_eq_false.mp (Bool.eq_false_iff.mpr hval)
  obtain ⟨⟨c1, w1⟩, hfall, hput⟩ := andThen_ok.mp hm
  have hc1 : c1 = c := by
    rw [← modifyFallthroughLocked_controller api netId true c w, hfall]
  cases hput
  rw [hc1] at hwf ⊢
  have hvpns : (c.putNetwork netId (.virtual (.new netId secure))).virtualNetIds.Perm
      (netId :: c.virtualNetIds) := virtualNetIds_enter hfree
  obtain ⟨hsound, hbal⟩ := modifyFallthroughLocked_balance h hidx hbase hvpns (.refl _) hfall
  refine ⟨hwf, h.flags.put (fun hflag => by cases hflag) fun _ hd _ => hd, ?_⟩
  refine h.ledger.enter hfree rfl ⟨?_, ?_⟩ hwf.toShape hsound hbal
  · intro r hr
    cases hr
  · intro hne
    exact absurd rfl hne

/-! ## The default network -/

theorem PhysicalNetwork.removeAsDefault_isDefault
    (h : PhysicalNetwork.removeAsDefault api vpns (p, w) = (0, (p', w'))) :
    p'.mIsDefault = false := by
  simp only [PhysicalNetwork.removeAsDefault] at h
  split at h
  · obtain ⟨rfl, _⟩ := commit_ok.mp h
    rfl
  rename_i hd
  cases h
  exact Bool.eq_false_iff.mpr hd

/-- A physical network loses its default flag. -/
theorem Ledger.removeAsDefault (h : Ledger idx T base rejects c w) (hidx : DistinctNumbers idx)
    (hbase : InitBase idx base) (hp : c.getNetworkLocked k = some (.physical p))
    (hm : PhysicalNetwork.removeAsDefault api c.virtualNetIds (p, w) = (0, (p', w'))) :
    Ledger idx T base rejects (c.putNetwork k (.physical p')) w' := by
  have hsame := removeAsDefault_sameKind api c.virtualNetIds p w fun _ => False
  rw [hm] at hsame
  exact h.method_old hidx hbase hp (fun hd => by cases hd) hsame trivial
    (removeAsDefault_accounts hidx hm)

/-- The first half of `setDefaultNetwork`. -/
theorem installDefault_ledger (h : Books idx T base rejects c w) (hidx : DistinctNumbers idx)
    (hbase : InitBase idx base) (hm : installDefault api netId (c, w) = (0, (c', w'))) :
    Ledger idx T base rejects c' w' ∧ Flags c' [netId, c.mDefaultNetId] := by
  have hmore : ∀ d ∈ [c.mDefaultNetId], d ≠ netId → d ∈ [netId, c.mDefaultNetId] :=
    fun d hd _ => mem_cons_of_mem _ hd
  simp only [installDefault] at hm
  split at hm
  · split at hm
    · cases hm
    · rename_i p hp
      obtain ⟨p', rfl, hmethod⟩ := onNetwork_ok hm
      have hsame := addAsDefault_sameKind api c.virtualNetIds p w fun _ => False
      rw [hmethod] at hsame
      refine ⟨h.ledger.method_old hidx hbase hp (fun hd => by cases hd) hsame.1 trivial
        (addAsDefault_accounts hidx hmethod), ?_⟩
      exact h.flags.put (fun _ => mem_cons_self) hmore
    · cases hm
  · cases hm
    exact ⟨h.ledger, fun k n hk hflag => mem_cons_of_mem _ (h.flags k n hk hflag)⟩

/-- The second half of `setDefaultNetwork`. -/
theorem retireDefault_ledger (h : Ledger idx T base rejects c w) (hidx : DistinctNumbers idx)
    (hbase : InitBase idx base) (hflags : Flags c [netId, c.mDefaultNetId])
    (hm : retireDefault api (c, w) = (0, (c', w'))) :
    Ledger idx T base rejects c' w' ∧ Flags c' [netId] := by
  have hless : ∀ d ∈ [netId, c.mDefaultNetId], d ≠ c.mDefaultNetId → d ∈ [netId] := by
    intro d hd hne
    rcases mem_cons.mp hd with rfl | hold
    · exact mem_cons_self
    · exact absurd (mem_singleton.mp hold) hne
  simp only [retireDefault] at hm
  split at hm
  · split at hm
    · rename_i p hp
      obtain ⟨p', rfl, hmethod⟩ := onNetwork_ok hm
      refine ⟨h.removeAsDefault hidx hbase hp hmethod, hflags.put (fun hflag => ?_) hless⟩
      rw [show (physical p').isDefault = p'.mIsDefault from rfl,
        removeAsDefault_isDefault hmethod] at hflag
      cases hflag
    · cases hm
  · rename_i hunset
    cases hm
    refine ⟨h, fun k n hk hflag => hless k (hflags k n hk hflag) fun heq => ?_⟩
    exact h.shape.ne_unset hk (heq.trans (not_not.mp hunset))

theorem setDefaultNetwork_books (hidx : DistinctNumbers idx) (hbase : InitBase idx base)
    (netId : Nat) : KeepsBooks idx T base rejects (setDefaultNetwork api netId) := by
  intro c w c' w' h hm
  have hwf := setDefaultNetwork_keeps api netId (c, w) h.wellFormed
  rw [hm] at hwf
  simp only [setDefaultNetwork] at hm
  split at hm
  · cases hm
    exact h
  obtain ⟨⟨c1, w1⟩, hinstall, hm⟩ := andThen_ok.mp hm
  obtain ⟨⟨c2, w2⟩, hretire, hm⟩ := andThen_ok.mp hm
  cases hm
  have hd1 : c1.mDefaultNetId = c.mDefaultNetId := by
    rw [← installDefault_mDefaultNetId api netId c w, hinstall]
  obtain ⟨hledger1, hflags1⟩ := installDefault_ledger h hidx hbase hinstall
  rw [← hd1] at hflags1
  obtain ⟨hledger2, hflags2⟩ := retireDefault_ledger hledger1 hidx hbase hflags1 hretire
  exact ⟨hwf, hflags2, hledger2.of_networks rfl⟩

/-! ## Destroying networks -/

theorem Network.clearInterfaces_not_dummy (h : Ledger idx T base rejects c w)
    (hk : c.getNetworkLocked k = some n)
    (hm : clearInterfaces api vpns (n, w) = (0, (n', w'))) : n.getType ≠ .dummy := by
  intro hdummy
  obtain ⟨d, hd, hmem⟩ := h.has_dummy
  have hrange := h.shape.in_range k n hk
  rw [hdummy] at hrange
  rw [show k = dummyNetId from hrange, hd] at hk
  cases hk
  obtain ⟨i, is, hkeys⟩ := exists_cons_of_ne_nil (ne_nil_of_mem hmem)
  have hget : (dummy d).getInterfaces.keys = i :: is := hkeys
  simp only [clearInterfaces, hget, length_cons, clearInterfacesLoop] at hm
  obtain ⟨t, hrem, _⟩ := andThen_ok.mp hm
  cases hrem

/-- After `detach` the ledger is that of a controller without the network. -/
theorem detach_ledger (h : Books idx T base rejects c w) (hidx : DistinctNumbers idx)
    (hbase : InitBase idx base) (hk : c.getNetworkLocked k = some n)
    (hempty : n.getInterfaces.keys = []) (hn : n.getType ≠ .dummy) (hlocal : k ≠ localNetId)
    (hm : detach api k (c, w) = (0, (c', w'))) :
    Ledger idx T base rejects (c'.eraseNetwork k) w' ∧
      Flags (c'.eraseNetwork k) [(c'.eraseNetwork k).mDefaultNetId] := by
  simp only [detach] at hm
  split at hm
  · rename_i hdefault
    -- the default network is physical: it loses its flag first
    have hok := h.wellFormed.default_ok
    rw [DefaultOk, hdefault, hk] at hok
    rcases hok with hunset | ⟨p, hp, hflag⟩
    · exact absurd hunset (h.wellFormed.toShape.ne_unset hk)
    cases hp
    rw [hk] at hm
    simp only [onNetwork] at hm
    rcases hmethod : PhysicalNetwork.removeAsDefault api c.virtualNetIds (p, w) with
      ⟨ret, p', w1⟩
    simp only [hmethod] at hm
    cases hm
    have hledger := h.ledger.removeAsDefault hidx hbase hk hmethod
    have hsame := removeAsDefault_sameKind api c.virtualNetIds p w fun _ => False
    rw [hmethod] at hsame
    have hkey := getNetworkLocked_put_self c k (.physical p')
    have hempty' : (physical p').getInterfaces.keys = [] := by
      refine eq_nil_iff_forall_not_mem.mpr fun i hi => ?_
      rcases hsame.interfaces i hi with hold | hf
      · rw [hempty] at hold
        cases hold
      · exact hf
    refine ⟨?_, fun k2 n2 hk2 hflag2 => ?_⟩
    · have herased := hledger.erase hkey hempty' hn hlocal hledger.sound fun fam => by
        rw [hledger.balance fam, controllerItems]
        exact congrArg (base fam + · + _) (itemsFor_vpns_perm (virtualNetIds_erase hkey))
      exact herased.of_networks rfl
    · obtain ⟨hne, hk2⟩ := getNetworkLocked_of_erase hk2
      have hold : c.getNetworkLocked k2 = some n2 := by
        have hget := getNetworkLocked_put c k (.physical p') k2
        rw [if_neg hne] at hget
        exact hget.symm.trans hk2
      exact absurd ((mem_singleton.mp (h.flags k2 n2 hold hflag2)).trans hdefault) hne
  · have hflags : Flags (c.eraseNetwork k) [c.mDefaultNetId] := by
      intro k2 n2 hk2 hflag2
      exact h.flags k2 n2 (getNetworkLocked_of_erase hk2).2 hflag2
    have hvpns := virtualNetIds_erase hk
    have hkind := isVirtualNetworkLocked_eq hk
    split at hm
    · rename_i hvirtual
      rw [hkind, decide_eq_true_eq] at hvirtual
      rw [if_pos hvirtual] at hvpns
      have hc' : c' = c := by
        rw [← modifyFallthroughLocked_controller api k false c w, hm]
      obtain ⟨hsound, hbal⟩ := modifyFallthroughLocked_balance h hidx hbase hvpns (.refl _) hm
      rw [hc']
      exact ⟨h.ledger.erase hk hempty hn hlocal hsound hbal, hflags⟩
    · rename_i hvirtual
      rw [hkind, decide_eq_true_eq] at hvirtual
      rw [if_neg hvirtual] at hvpns
      cases hm
      refine ⟨h.ledger.erase hk hempty hn hlocal h.ledger.sound fun fam => ?_, hflags⟩
      rw [h.ledger.balance fam, controllerItems, itemsFor_vpns_perm hvpns]

theorem destroyNetwork_books (hidx : DistinctNumbers idx) (hbase : InitBase idx base)
    (netId : Nat) : KeepsBooks idx T base rejects (destroyNetwork api netId) := by
  intro c w c' w' h hm
  have hwf := destroyNetwork_keeps api netId (c, w) h.wellFormed
  rw [hm] at hwf
  simp only [destroyNetwork] at hm
  split at hm
  · cases hm
  rename_i hlocal
  split at hm
  · cases hm
  rename_i n hn
  have hevo := clearInterfaces_evolves api c.virtualNetIds n w fun _ => False
  rcases hclear : clearInterfaces api c.virtualNetIds (n, w) with ⟨ret, n1, w1⟩
  simp only [onNetwork, hclear] at hm hevo
  rcases hdetach : detach api netId (c.putNetwork netId (id n1), w1) with ⟨err, c2, w2⟩
  simp only [hdetach] at hm
  -- both codes are zero
  split at hm
  · rename_i hret
    cases hm
    exact absurd rfl hret
  rename_i hret
  cases not_not.mp hret
  cases hm
  have htype := clearInterfaces_not_dummy h.ledger hn hclear
  obtain ⟨hempty, hranges, hacc⟩ := clearInterfaces_accounts hidx
    (h.ledger.ranges_ok netId n hn) hclear
  have hbooks := h.method hidx hbase hn htype hevo hranges hacc
  have hkey := getNetworkLocked_put_self c netId n1
  obtain ⟨hledger, hflags⟩ := detach_ledger hbooks hidx hbase hkey hempty
    (hevo.type_eq.symm ▸ htype) hlocal hdetach
  exact ⟨hwf, hflags, hledger⟩

/-! ## Routes -/

theorem modifyRoute_books (netId : Nat) (i : String) (add legacy : Bool) (uid : Uid) :
    KeepsBooks idx T base rejects (modifyRoute api netId i add legacy uid) := by
  intro c w c' w' h hm
  simp only [modifyRoute] at hm
  split at hm
  · cases hm
  split at hm
  · cases hm
  split at hm
  · cases hm
  obtain ⟨rfl, hroute⟩ := onSnd_ok.mp hm
  have hsteady : Steady idx T (policy w) w := ⟨h.ledger.sound, fun _ => rfl⟩
  exact h.of_steady ((modifyRoute_steady add i _).run hsteady hroute)

end

end Netd
