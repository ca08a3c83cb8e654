import Netd.Policy.Calls

/-!
# What a network has in the policy

`networkItems` is the sum of the items of a network's interfaces. Each method of a network that
succeeds takes the items of the object before to the items of the object after (`Accounts`), in any
policy whose rest has nothing about the interfaces of the network.
-/

namespace Netd

open Multiset

open List Network PhysicalNetwork VirtualNetwork Call LocalNetwork Replaces UidRanges OrdMap

open RouteController (api)

def interfaceItems (idx : String → Nat) (vpns : List Nat) (n : Network) (i : String) :
    Multiset Item :=
  match n with
  | .physical p =>
    (if p.mIsDefault then defaultItems idx i vpns p.mPermission else 0) +
      physicalItems idx p.mNetId i p.mPermission
  | .virtual v =>
    virtualUidItems idx v.mNetId i v.mSecure v.mUidRanges.bag +
      virtualNonUidItems idx v.mNetId i v.mSecure
  | .local l => localItems l.mNetId i
  | .dummy _ => 0

def networkItems (idx : String → Nat) (vpns : List Nat) (n : Network) : Multiset Item :=
  (n.getInterfaces.keys.map (interfaceItems idx vpns n)).sum

/-- No range of a VPN stands for no range, and a VPN with an interface has ranges. -/
def Network.RangesOk : Network → Prop
  | .virtual v => (∀ r ∈ v.mUidRanges.bag, r.NotSentinel) ∧
      (v.mInterfaces.keys ≠ [] → ∀ r ∈ v.mUidRanges.bag, r.start ≠ invalidUid)
  | _ => True

/-- Ownership by a list of interfaces. -/
def Owns (idx : String → Nat) (is : List String) (x : Item) : Prop := ∃ i ∈ is, About idx i x

section

variable {idx : String → Nat} {T : Rule → Prop} {vpns : List Nat} {w w' : Routing}
  {is js : List String} {M : Multiset Item} {b : Bool} {f : String → Call Routing}

theorem Owns.mono (h : ∀ i ∈ is, i ∈ js) (x : Item) (hx : Owns idx is x) : Owns idx js x := by
  obtain ⟨i, hi, ha⟩ := hx
  exact ⟨i, h i hi, ha⟩

/-- Every rule of `M` is one of interface `j`. -/
def Belongs (idx : String → Nat) (j : String) (M : Multiset Item) : Prop :=
  ∀ x, Item.rule x ∈ M → x.OfInterface idx j

variable {n n' : Network} {i j : String} {own : Item → Prop} {p : Permission} {m : Call Routing}

theorem Belongs.add {N : Multiset Item} (hM : Belongs idx j M) (hN : Belongs idx j N) :
    Belongs idx j (M + N) := by
  intro x hx
  cases mem_add.mp hx with
  | inl h => exact hM x h
  | inr h => exact hN x h

theorem belongs_zero : Belongs idx j 0 := fun _ hx => absurd hx (notMem_zero _)

theorem belongs_physicalItems {netId : Nat} : Belongs idx j (physicalItems idx netId j p) :=
  fun _ hx => ofInterface_physicalRules (mem_items_rule.mp hx)

theorem belongs_ite_default : Belongs idx j (if b then defaultItems idx j vpns p else 0) := by
  split
  · exact fun _ hx => ofInterface_defaultRules (mem_items_rule.mp hx)
  · exact belongs_zero

theorem belongs_physical (p : PhysicalNetwork) (j : String) :
    Belongs idx j (interfaceItems idx vpns (.physical p) j) :=
  belongs_ite_default.add belongs_physicalItems

theorem belongs_interfaceItems (hn : n.RangesOk) (hj : j ∈ n.getInterfaces.keys) :
    Belongs idx j (interfaceItems idx vpns n j) := by
  cases n with
  | dummy d => exact belongs_zero
  | «local» l => exact fun _ hx => ofInterface_localRules (mem_items_rule.mp hx)
  | virtual v =>
    exact fun _ hx => (vpnRule_of_mem_items (hn.2 (ne_nil_of_mem hj)) hx).ofInterface
  | physical p => exact belongs_physical p j

theorem Belongs.not_about {x : Item} (h : Belongs idx j M) (hidx : DistinctNumbers idx)
    (hij : i ≠ j) (hx : x ∈ M) : ¬ About idx i x := by
  cases x with
  | mark m => exact fun hm => hm
  | rule r => exact (h r hx).not_about hidx hij

/-- A loop over interfaces, each with items of its own. -/
theorem replaces_eachInterface {old new : String → Multiset Item} (hidx : DistinctNumbers idx)
    (hnd : is.Nodup) (hold : ∀ i ∈ is, Belongs idx i (old i))
    (hnew : ∀ i ∈ is, Belongs idx i (new i))
    (hf : ∀ i ∈ is, Replaces policy (Sound idx T) (About idx i) (old i) (new i) (f i)) :
    Replaces policy (Sound idx T) (Owns idx is) (is.map old).sum (is.map new).sum
      (each f is) := by
  refine each hnd hf fun i _ j hj hij x hx => ?_
  rcases hx with h | h
  · exact (hold j hj).not_about hidx hij h
  · exact (hnew j hj).not_about hidx hij h

/-- A run from `(n, w)` to `(n', w')` took the items of `n` to those of `n'`. -/
def Accounts (idx : String → Nat) (T : Rule → Prop) (vpns : List Nat) (own : Item → Prop)
    (n : Network) (w : Routing) (n' : Network) (w' : Routing) : Prop :=
  ∀ R : Family → Multiset Item, (∀ fam, ∀ x ∈ R fam, ¬ own x) → Sound idx T w →
    (∀ fam, policy w fam = R fam + networkItems idx vpns n) →
    Sound idx T w' ∧ ∀ fam, policy w' fam = R fam + networkItems idx vpns n'

theorem Replaces.accounts
    (h : Replaces policy (Sound idx T) own (networkItems idx vpns n) (networkItems idx vpns n') m)
    (hm : m w = (0, w')) : Accounts idx T vpns own n w n' w' :=
  fun R hR hw hv => h.spec R w w' hR hw hv hm

theorem Accounts.refl : Accounts idx T vpns own n w n w := fun _ _ hw hv => ⟨hw, hv⟩

theorem Accounts.trans {n'' : Network} {w'' : Routing} (h : Accounts idx T vpns own n w n' w')
    (h' : Accounts idx T vpns own n' w' n'' w'') : Accounts idx T vpns own n w n'' w'' := by
  intro R hR hw hv
  obtain ⟨hw', hv'⟩ := h R hR hw hv
  exact h' R hR hw' hv'

theorem Accounts.mono {own' : Item → Prop} (h : Accounts idx T vpns own n w n' w')
    (hown : ∀ x, own x → own' x) : Accounts idx T vpns own' n w n' w' :=
  fun R hR => h R fun fam x hx ho => hR fam x hx (hown x ho)

/-! ## One more interface, one interface less -/

theorem networkItems_perm (h : n.getInterfaces.keys.Perm (i :: js)) : networkItems idx vpns n =
      interfaceItems idx vpns n i + (js.map (interfaceItems idx vpns n)).sum :=
  (h.map _).sum_eq

/-- A call that puts in the items of a new interface. -/
theorem accounts_add (hkeys : n'.getInterfaces.keys.Perm (i :: n.getInterfaces.keys))
    (hitems : interfaceItems idx vpns n' = interfaceItems idx vpns n)
    (hrep : ∀ P, Replaces policy (Sound idx T) own P (P + interfaceItems idx vpns n i) m)
    (hm : m w = (0, w')) : Accounts idx T vpns own n w n' w' := by
  refine accounts ?_ hm
  rw [networkItems_perm hkeys, hitems, add_comm]
  exact hrep _

/-- A call that takes out the items of an interface. -/
theorem accounts_remove (hidx : DistinctNumbers idx) (hn : n.RangesOk)
    (hkeys : n.getInterfaces.keys.Perm (i :: n'.getInterfaces.keys))
    (hitems : interfaceItems idx vpns n' = interfaceItems idx vpns n)
    (hrep : Replaces policy (Sound idx T) (About idx i) (interfaceItems idx vpns n i) 0 m)
    (hm : m w = (0, w')) : Accounts idx T vpns (Owns idx n.getInterfaces.keys) n w n' w' := by
  have hmem : ∀ j ∈ i :: n'.getInterfaces.keys, j ∈ n.getInterfaces.keys :=
    fun j hj => hkeys.mem_iff.mpr hj
  have hnot : i ∉ n'.getInterfaces.keys :=
    (nodup_cons.mp (hkeys.nodup_iff.mp n.getInterfaces.keys_nodup)).1
  have hframe := hrep.frame (S := networkItems idx vpns n') fun x hx => by
    obtain ⟨j, hj, hxj⟩ := mem_sum_map.mp hx
    rw [hitems] at hxj
    exact (belongs_interfaceItems hn (hmem j (mem_cons_of_mem _ hj))).not_about hidx
      (fun heq => hnot (heq ▸ hj)) hxj
  rw [zero_add] at hframe
  have hrest : networkItems idx vpns n' =
      (n'.getInterfaces.keys.map (interfaceItems idx vpns n)).sum := by
    rw [networkItems, hitems]
  refine (accounts ?_ hm).mono fun x hx => ⟨i, hmem i mem_cons_self, hx⟩
  rw [networkItems_perm hkeys, ← hrest]
  exact hframe

/-- A loop that changes the items of every interface. -/
theorem accounts_each (hidx : DistinctNumbers idx) (hn : n.RangesOk) (hn' : n'.RangesOk)
    (hkeys : n'.getInterfaces = n.getInterfaces)
    (hf : ∀ i ∈ n.getInterfaces.keys, Replaces policy (Sound idx T) (About idx i)
      (interfaceItems idx vpns n i) (interfaceItems idx vpns n' i) (f i))
    (hm : each f n.getInterfaces.keys w = (0, w')) :
    Accounts idx T vpns (Owns idx n.getInterfaces.keys) n w n' w' := by
  refine accounts ?_ hm
  rw [networkItems, networkItems, hkeys]
  exact replaces_eachInterface hidx n.getInterfaces.keys_nodup
    (fun i hi => belongs_interfaceItems hn hi)
    (fun i hi => belongs_interfaceItems hn' (hkeys.symm ▸ hi)) hf

/-! ## Physical networks -/

theorem priority_of_ite_default {x : Rule}
    (hx : Item.rule x ∈ if b then defaultItems idx i vpns p else 0) :
    x.priority = 22000 ∨ x.priority = 21000 := by
  split at hx
  · exact defaultRules_priority (mem_items_rule.mp hx)
  · exact absurd hx (notMem_zero _)

section

variable {n n' : PhysicalNetwork} {i : String}

/-- The second loop of a permission change, on a default network. -/
theorem switchDefault_replaces {netId : Nat} {old new : Permission} :
    Replaces policy (Sound idx T) (About idx i)
      (defaultItems idx i vpns old + physicalItems idx netId i new)
      (defaultItems idx i vpns new + physicalItems idx netId i new)
      ((addToDefault api vpns i new).andThen (removeFromDefault api vpns i old)) := by
  have hbeside : BesideDefault idx i
      (defaultItems idx i vpns new + physicalItems idx netId i new) :=
    besideDefault_defaultItems.add besideDefault_physicalItems
  have hcomm : defaultItems idx i vpns old + physicalItems idx netId i new +
      defaultItems idx i vpns new =
      defaultItems idx i vpns new + physicalItems idx netId i new +
        defaultItems idx i vpns old := by
    ac_rfl
  refine addToDefault_replaces.andThen ?_
  rw [hcomm]
  exact removeFromDefault_replaces hbeside

/-- The items of an interface while the first loop of a permission change is
past it. -/
def halfChangedItems (idx : String → Nat) (vpns : List Nat) (n : PhysicalNetwork)
    (permission : Permission) (i : String) : Multiset Item :=
  (if n.mIsDefault then defaultItems idx i vpns n.mPermission else 0) +
    physicalItems idx n.mNetId i permission

variable {permission : Permission}

section

variable (hidx : DistinctNumbers idx)
include hidx

theorem changePermission_accounts (h : n.changePermission api vpns permission w = (0, w')) :
    Accounts idx T vpns (Owns idx n.mInterfaces.keys) (.physical n) w
      (.physical { n with mPermission := permission }) w' := by
  have hhalf : ∀ i ∈ n.mInterfaces.keys,
      Belongs idx i (halfChangedItems idx vpns n permission i) :=
    fun i _ => belongs_ite_default.add belongs_physicalItems
  have hfirst : ∀ i ∈ n.mInterfaces.keys, Replaces policy (Sound idx T) (About idx i)
      (interfaceItems idx vpns (.physical n) i) (halfChangedItems idx vpns n permission i)
      ((api.modifyPhysicalNetworkPermission n.mNetId i n.mPermission permission).andThen
        (invalidateRouteCache api i)) := fun i _ =>
    (modifyPhysicalNetworkPermission_replaces fun x => priority_of_ite_default).andThen
      (of_keeps fun V => Call.Keeps.each (fun _ => (modifyRoute_steady true i
        .interface).ignore.andThen (modifyRoute_steady false i .interface).ignore) _)
  refine accounts ((replaces_eachInterface hidx n.mInterfaces.keys_nodup
    (fun i _ => belongs_physical n i) hhalf hfirst).andThen ?_) h
  by_cases hd : n.mIsDefault = true
  · rw [if_pos hd]
    refine replaces_eachInterface hidx n.mInterfaces.keys_nodup hhalf
      (fun i _ => belongs_physical { n with mPermission := permission } i) fun i _ => ?_
    rw [halfChangedItems, interfaceItems]
    rw [if_pos hd, if_pos hd]
    exact switchDefault_replaces
  · rw [if_neg hd]
    have hsame : halfChangedItems idx vpns n permission =
        interfaceItems idx vpns (.physical { n with mPermission := permission }) := by
      funext i
      rw [halfChangedItems, interfaceItems]
      rw [if_neg hd, if_neg hd]
    rw [hsame]
    exact .done

theorem PhysicalNetwork.setPermission_accounts
    (h : setPermission api vpns permission (n, w) = (0, (n', w'))) :
    Accounts idx T vpns (Owns idx n.mInterfaces.keys) (.physical n) w (.physical n') w' := by
  simp only [setPermission] at h
  split at h
  · cases h
    exact .refl
  split at h
  · rename_i hempty
    cases h
    have hzero : ∀ p : PhysicalNetwork, p.mInterfaces = n.mInterfaces →
        networkItems idx vpns (.physical p) = 0 := by
      intro p hp
      show (p.mInterfaces.keys.map _).sum = 0
      rw [hp, hempty]
      rfl
    refine accounts ?_ (done_ok.mpr rfl)
    rw [hzero n rfl, hzero { n with mPermission := permission } rfl]
    exact .done
  · obtain ⟨rfl, hm⟩ := commit_ok.mp h
    exact changePermission_accounts hidx hm

theorem PhysicalNetwork.addAsDefault_accounts (h : addAsDefault api vpns (n, w) = (0, (n', w'))) :
    Accounts idx T vpns (Owns idx n.mInterfaces.keys) (.physical n) w (.physical n') w' := by
  simp only [addAsDefault] at h
  split at h
  · cases h
    exact .refl
  rename_i hd
  obtain ⟨rfl, hm⟩ := commit_ok.mp h
  refine accounts_each (n := .physical n) hidx trivial trivial rfl (fun i _ => ?_) hm
  rw [interfaceItems, interfaceItems]
  rw [if_neg hd, if_pos rfl, zero_add, add_comm]
  exact addToDefault_replaces

theorem PhysicalNetwork.removeAsDefault_accounts
    (h : removeAsDefault api vpns (n, w) = (0, (n', w'))) :
    Accounts idx T vpns (Owns idx n.mInterfaces.keys) (.physical n) w (.physical n') w' := by
  simp only [removeAsDefault] at h
  split at h
  · rename_i hd
    obtain ⟨rfl, hm⟩ := commit_ok.mp h
    refine accounts_each (n := .physical n) hidx trivial trivial rfl (fun i _ => ?_) hm
    rw [interfaceItems, interfaceItems]
    rw [if_pos hd, if_neg Bool.false_ne_true, zero_add, add_comm]
    exact removeFromDefault_replaces besideDefault_physicalItems
  · cases h
    exact .refl

end

theorem PhysicalNetwork.addInterface_accounts (h : addInterface api vpns i (n, w) = (0, (n', w'))) :
    Accounts idx T vpns own (.physical n) w (.physical n') w' := by
  simp only [addInterface] at h
  split at h
  · cases h
    exact .refl
  rename_i hnot
  obtain ⟨rfl, hm⟩ := commit_ok.mp h
  refine accounts_add (OrdMap.keys_insert_perm () (mt OrdMap.contains_iff.mpr hnot)) rfl
    (fun P => ?_) hm
  rw [interfaceItems]
  by_cases hd : n.mIsDefault = true
  · rw [if_pos hd, if_pos hd, add_comm (defaultItems ..), ← add_assoc]
    exact addInterfaceToPhysicalNetwork_replaces.andThen addToDefault_replaces
  · rw [if_neg hd, if_neg hd, zero_add]
    exact addInterfaceToPhysicalNetwork_replaces.andThen .done

theorem PhysicalNetwork.removeInterface_accounts (hidx : DistinctNumbers idx)
    (h : removeInterface api vpns i (n, w) = (0, (n', w'))) :
    Accounts idx T vpns (Owns idx n.mInterfaces.keys) (.physical n) w (.physical n') w' := by
  simp only [removeInterface] at h
  split at h
  · rename_i hhas
    obtain ⟨rfl, hm⟩ := commit_ok.mp h
    refine accounts_remove (n := .physical n) (i := i) hidx trivial
      (keys_erase_perm (contains_iff.mp hhas)) rfl ?_ hm
    rw [interfaceItems]
    by_cases hd : n.mIsDefault = true
    · rw [if_pos hd, if_pos hd, add_comm]
      exact (removeFromDefault_replaces besideDefault_physicalItems).andThen
        removeInterfaceFromPhysicalNetwork_replaces
    · rw [if_neg hd, if_neg hd, zero_add]
      exact done.andThen removeInterfaceFromPhysicalNetwork_replaces
  · cases h
    exact .refl

end

/-! ## Virtual networks -/

section

variable {n n' : VirtualNetwork} {u : UidRanges}

theorem VirtualNetwork.addUsers_accounts (hidx : DistinctNumbers idx) (hn : (virtual n).RangesOk)
    (hu : ∀ r ∈ u.bag, r.NotSentinel) (h : addUsers api u (n, w) = (0, (n', w'))) :
    (virtual n').RangesOk ∧
      Accounts idx T vpns (Owns idx n.mInterfaces.keys) (.virtual n) w (.virtual n') w' := by
  simp only [addUsers] at h
  obtain ⟨rfl, hm⟩ := commit_ok.mp h
  have hagree : ∀ i ∈ n.mInterfaces.keys, ∀ r ∈ u.bag, uidsAgree r.start r.stop :=
    each_ok_forall (fun i s s' hi => modifyVirtualNetwork_ranges hi) hm
  have hranges : (virtual { n with mUidRanges := n.mUidRanges.add u }).RangesOk := by
    refine ⟨fun r hr => ?_, fun hne r hr => ?_⟩
    · rcases mem_add.mp hr with hold | hnew
      · exact hn.1 r hold
      · exact hu r hnew
    · obtain ⟨i, hi⟩ := exists_mem_of_ne_nil _ hne
      rcases mem_add.mp hr with hold | hnew
      · exact hn.2 hne r hold
      · exact (hu r hnew).start_ne (hagree i hi r hnew)
  refine ⟨hranges, accounts_each hidx hn hranges rfl (fun i _ => ?_) hm⟩
  rw [interfaceItems, interfaceItems]
  rw [bag_add, virtualUidItems_add, add_right_comm]
  exact addUsersToVirtualNetwork_replaces

theorem VirtualNetwork.removeUsers_accounts (hidx : DistinctNumbers idx) (hn : (virtual n).RangesOk)
    (hu : ∀ r ∈ u.bag, r.NotSentinel) (h : removeUsers api u (n, w) = (0, (n', w'))) :
    (virtual n').RangesOk ∧
      Accounts idx T vpns (Owns idx n.mInterfaces.keys) (.virtual n) w (.virtual n') w' := by
  simp only [removeUsers] at h
  obtain ⟨rfl, hm⟩ := commit_ok.mp h
  have hranges : (virtual { n with mUidRanges := n.mUidRanges.remove u }).RangesOk :=
    ⟨fun r hr => hn.1 r (mem_of_mem_remove hr), fun hne r hr => hn.2 hne r (mem_of_mem_remove hr)⟩
  refine ⟨hranges, accounts_each hidx hn hranges rfl (fun i hi => ?_) hm⟩
  rw [interfaceItems, interfaceItems]
  rw [bag_remove]
  exact removeUsersFromVirtualNetwork_replaces (hn.2 (ne_nil_of_mem hi)) hu

theorem VirtualNetwork.addInterface_accounts (hn : (virtual n).RangesOk)
    (h : addInterface api i (n, w) = (0, (n', w'))) :
    (virtual n').RangesOk ∧ Accounts idx T vpns own (.virtual n) w (.virtual n') w' := by
  simp only [addInterface] at h
  split at h
  · cases h
    exact ⟨hn, .refl⟩
  rename_i hnot
  obtain ⟨rfl, hm⟩ := commit_ok.mp h
  refine ⟨⟨hn.1, fun _ r hr => (hn.1 r hr).start_ne ?_⟩, ?_⟩
  · exact modifyVirtualNetwork_ranges hm r hr
  · exact accounts_add (OrdMap.keys_insert_perm () (mt OrdMap.contains_iff.mpr hnot)) rfl
      (fun P => addInterfaceToVirtualNetwork_replaces) hm

theorem VirtualNetwork.removeInterface_accounts (hidx : DistinctNumbers idx)
    (hn : (virtual n).RangesOk) (h : removeInterface api i (n, w) = (0, (n', w'))) :
    (virtual n').RangesOk ∧
      Accounts idx T vpns (Owns idx n.mInterfaces.keys) (.virtual n) w (.virtual n') w' := by
  simp only [removeInterface] at h
  split at h
  · rename_i hhas
    obtain ⟨rfl, hm⟩ := commit_ok.mp h
    have hmem := contains_iff.mp hhas
    refine ⟨⟨hn.1, fun _ => hn.2 (ne_nil_of_mem hmem)⟩, ?_⟩
    exact accounts_remove hidx hn (keys_erase_perm hmem) rfl
      (removeInterfaceFromVirtualNetwork_replaces (hn.2 (ne_nil_of_mem hmem))) hm
  · cases h
    exact ⟨hn, .refl⟩

end

/-! ## Any network -/

section

variable {n n' : Network} {i : String} {l l' : LocalNetwork}

theorem LocalNetwork.addInterface_accounts (h : addInterface api i (l, w) = (0, (l', w'))) :
    Accounts idx T vpns own (.local l) w (.local l') w' := by
  simp only [addInterface] at h
  split at h
  · cases h
    exact .refl
  rename_i hnot
  obtain ⟨rfl, hm⟩ := commit_ok.mp h
  exact accounts_add (OrdMap.keys_insert_perm () (mt OrdMap.contains_iff.mpr hnot)) rfl
    (fun P => (modifyLocalNetwork_performs idx _ i true).installs fun _ hr =>
      (@about_localRules idx i _ hr).2.1) hm

theorem LocalNetwork.removeInterface_accounts (hidx : DistinctNumbers idx)
    (h : removeInterface api i (l, w) = (0, (l', w'))) :
    Accounts idx T vpns (Owns idx l.mInterfaces.keys) (.local l) w (.local l') w' := by
  simp only [removeInterface] at h
  split at h
  · rename_i hhas
    obtain ⟨rfl, hm⟩ := commit_ok.mp h
    exact accounts_remove (n := .local l) hidx trivial
      (keys_erase_perm (contains_iff.mp hhas)) rfl
      removeInterfaceFromLocalNetwork_replaces hm
  · cases h
    exact .refl

theorem Network.dispatch_ok {ν : Type} {wrap : ν → Network} {m : Call (ν × Routing)} {k : ν}
    (h : dispatch wrap m k w = (0, (n', w'))) :
    ∃ k', n' = wrap k' ∧ m (k, w) = (0, (k', w')) := by
  have hcode := congrArg Prod.fst h
  have hobj := congrArg (fun r => r.2.1) h
  have hstate := congrArg (fun r => r.2.2) h
  exact ⟨(m (k, w)).2.1, hobj.symm, Prod.ext hcode (Prod.ext rfl hstate)⟩

theorem Network.addInterface_accounts (hn : n.RangesOk)
    (h : addInterface api vpns i (n, w) = (0, (n', w'))) :
    n'.RangesOk ∧ Accounts idx T vpns own n w n' w' := by
  cases n with
  | dummy d => cases h
  | «local» k | physical k =>
    obtain ⟨k', rfl, hm⟩ := dispatch_ok h
    exact ⟨trivial, addInterface_accounts hm⟩
  | virtual v =>
    obtain ⟨v', rfl, hm⟩ := dispatch_ok h
    exact addInterface_accounts hn hm

theorem Network.removeInterface_accounts (hidx : DistinctNumbers idx) (hn : n.RangesOk)
    (h : removeInterface api vpns i (n, w) = (0, (n', w'))) :
    n'.RangesOk ∧ Accounts idx T vpns (Owns idx n.getInterfaces.keys) n w n' w' := by
  cases n with
  | dummy d => cases h
  | «local» k | physical k =>
    obtain ⟨k', rfl, hm⟩ := dispatch_ok h
    exact ⟨trivial, removeInterface_accounts hidx hm⟩
  | virtual v =>
    obtain ⟨v', rfl, hm⟩ := dispatch_ok h
    exact removeInterface_accounts hidx hn hm

/-- An interface that is removed is gone, and the items of the others are the same. -/
theorem Network.removeInterface_erases (hi : i ∈ n.getInterfaces.keys)
    (h : removeInterface api vpns i (n, w) = (0, (n', w'))) :
    n'.getInterfaces = n.getInterfaces.erase i ∧
      ∀ idx, interfaceItems idx vpns n' = interfaceItems idx vpns n := by
  have hhas := OrdMap.contains_iff.mpr hi
  cases n with
  | dummy d => cases h
  | «local» k | physical k | virtual k =>
    obtain ⟨k', rfl, hm⟩ := dispatch_ok h
    obtain ⟨rfl, _⟩ := commit_ok.mp ((if_pos hhas).symm.trans hm)
    exact ⟨rfl, fun _ => rfl⟩

/-- The loop of `clearInterfaces` ends with no interface and no item left. -/
theorem Network.clearInterfacesLoop_accounts (hidx : DistinctNumbers idx) (fuel : Nat)
    (hfuel : n.getInterfaces.keys.length ≤ fuel) (hn : n.RangesOk)
    (h : clearInterfacesLoop api vpns fuel (n, w) = (0, (n', w'))) :
    n'.getInterfaces.keys = [] ∧ n'.RangesOk ∧
      Accounts idx T vpns (Owns idx n.getInterfaces.keys) n w n' w' := by
  induction fuel generalizing n w with
  | zero =>
    cases done_ok.mp h
    exact ⟨eq_nil_of_length_eq_zero (Nat.le_zero.mp hfuel), hn, .refl⟩
  | succ fuel ih =>
    simp only [clearInterfacesLoop] at h
    split at h
    · rename_i hnil
      cases h
      exact ⟨hnil, hn, .refl⟩
    rename_i i rest hkeys
    have hi : i ∈ n.getInterfaces.keys := hkeys ▸ mem_cons_self
    obtain ⟨⟨n1, w1⟩, hone, hmore⟩ := andThen_ok.mp h
    obtain ⟨hn1, hacc⟩ := removeInterface_accounts hidx hn hone
    have herase := (removeInterface_erases hi hone).1
    have hlen := (keys_erase_perm hi).length_eq
    have hfuel1 : n1.getInterfaces.keys.length ≤ fuel := by
      rw [herase]
      rw [length_cons] at hlen
      omega
    obtain ⟨hempty, hn', hrest⟩ := ih hfuel1 hn1 hmore
    refine ⟨hempty, hn', hacc.trans (hrest.mono fun x hx => Owns.mono (fun j hj => ?_) x hx)⟩
    rw [herase] at hj
    exact (mem_keys_erase.mp hj).1

theorem Network.clearInterfaces_accounts (hidx : DistinctNumbers idx) (hn : n.RangesOk)
    (h : clearInterfaces api vpns (n, w) = (0, (n', w'))) :
    n'.getInterfaces.keys = [] ∧ n'.RangesOk ∧
      Accounts idx T vpns (Owns idx n.getInterfaces.keys) n w n' w' :=
  clearInterfacesLoop_accounts hidx _ (Nat.le_refl _) hn h

end

end

end Netd
