import Netd.Lib.Lts
import Netd.Policy.Runs

/-!
# Only the default network behaves as default

While the flag `mIsDefault` of a physical network is set, an interface added to the network also
gets the rules of the default network. `OnlyDefault` says that no network but `mDefaultNetId` has
its flag set.

Every operation but `setDefaultNetwork` keeps this, whatever fails below it. If the routing layer
adds the rules of the new network and then fails to remove those of the old one, the call returns
with both flags set. `LetsGo` excludes this.
-/

namespace Netd.NetworkController

open Network Netd.NetworkController.PhysicalNetwork Call Errno

/-- No network but the default one has its flag set. -/
def OnlyDefault (c : NetworkController) : Prop :=
  ∀ k n, c.getNetworkLocked k = some n → n.isDefault = true → k = c.mDefaultNetId

variable {c : NetworkController} {k : Nat} {p : PhysicalNetwork}

section

variable (h : OnlyDefault c)
include h

theorem OnlyDefault.put {n : Network}
    (hflag : n.isDefault = true → k = c.mDefaultNetId) : OnlyDefault (c.putNetwork k n) :=
  OrdMap.forall_insert h hflag

theorem OnlyDefault.evolve {n n' : Network} {fresh : String → Prop}
    (hn : c.getNetworkLocked k = some n) (hevo : Network.Evolves fresh n n') :
    OnlyDefault (c.putNetwork k n') :=
  h.put fun hset => h k n hn (hevo.default_eq.symm.trans hset)

theorem OnlyDefault.of_networks {c' : NetworkController}
    (hn : c'.mNetworks = c.mNetworks) (hd : c'.mDefaultNetId = c.mDefaultNetId) :
    OnlyDefault c' := by
  intro k n hk hset
  rw [getNetworkLocked, hn] at hk
  rw [hd]
  exact h k n hk hset

theorem OnlyDefault.not_set (hp : c.getNetworkLocked k = some (.physical p))
    (hk : k ≠ c.mDefaultNetId) : p.mIsDefault = false := by
  rw [← Bool.not_eq_true]
  exact fun hset => hk (h k (.physical p) hp hset)

end

section Operations

variable {σ : Type} (rc : RouteApi σ)

/-! ## The operations that keep it -/

/-- A call keeps the property, whatever it returns. -/
def KeepsOnlyDefault (m : Call (NetworkController × σ)) : Prop :=
  Call.Keeps (fun st => OnlyDefault st.1) m

theorem createPhysicalNetwork_onlyDefault (netId : Nat) (permission : Permission) :
    KeepsOnlyDefault (createPhysicalNetwork rc netId permission) := by
  rintro ⟨c, s⟩ h
  simp only [createPhysicalNetwork]
  split
  · exact h
  split
  · exact h
  split
  · exact h
  have hevo := PhysicalNetwork.setPermission_evolves rc c.virtualNetIds permission
    (PhysicalNetwork.new netId) s (fun _ => False)
  refine h.put fun hset => ?_
  rw [hevo.default_eq] at hset
  cases hset

theorem createPhysicalOemNetwork_onlyDefault (permission : Permission) :
    KeepsOnlyDefault (createPhysicalOemNetwork rc permission) := by
  rintro ⟨c, s⟩ h
  simp only [createPhysicalOemNetwork]
  split
  · exact h
  · exact createPhysicalNetwork_onlyDefault rc _ permission (c, s) h

section

variable (netId : Nat)

theorem createVirtualNetwork_onlyDefault (secure : Bool) :
    KeepsOnlyDefault (createVirtualNetwork rc netId secure) := by
  rintro ⟨c, s⟩ h
  have hsame := modifyFallthroughLocked_controller rc netId true c s
  simp only [createVirtualNetwork]
  split
  · exact h
  split
  · exact h
  refine andThen_elim (P := fun r : Int × NetworkController × σ => OnlyDefault r.2.1)
    (fun _ => ?_) (fun _ => ?_)
  · show OnlyDefault (putNetwork _ netId _)
    rw [hsame]
    exact h.put fun hset => by cases hset
  · rwa [hsame]

/-- `detach` touches no other network, nor the default network unless it is detached. -/
theorem detach_frame (c : NetworkController) (s : σ) :
    (∀ k, k ≠ netId → (detach rc netId (c, s)).2.1.getNetworkLocked k = c.getNetworkLocked k) ∧
      (c.mDefaultNetId ≠ netId → (detach rc netId (c, s)).2.1.mDefaultNetId = c.mDefaultNetId) := by
  simp only [detach]
  split
  · rename_i hdef
    split
    · refine ⟨fun k hk => ?_, fun hne => absurd hdef hne⟩
      show (c.putNetwork netId _).getNetworkLocked k = _
      rw [getNetworkLocked_put, if_neg hk]
    · exact ⟨fun _ _ => rfl, fun hne => absurd hdef hne⟩
  · split
    · rw [modifyFallthroughLocked_controller]
      exact ⟨fun _ _ => rfl, fun _ => rfl⟩
    · exact ⟨fun _ _ => rfl, fun _ => rfl⟩

theorem destroyNetwork_onlyDefault : KeepsOnlyDefault (destroyNetwork rc netId) := by
  rintro ⟨c, s⟩ h
  simp only [destroyNetwork]
  split
  · exact h
  split
  · exact h
  rename_i network hn
  have hcleared : OnlyDefault (onNetwork id netId network
      (clearInterfaces rc c.virtualNetIds) (c, s)).2.1 :=
    h.evolve hn (clearInterfaces_evolves rc c.virtualNetIds network s fun _ => False)
  obtain ⟨hframe, hdef⟩ := detach_frame rc netId
    (onNetwork id netId network (clearInterfaces rc c.virtualNetIds) (c, s)).2.1
    (onNetwork id netId network (clearInterfaces rc c.virtualNetIds) (c, s)).2.2
  intro k n hk hset
  obtain ⟨hne, hk⟩ := getNetworkLocked_of_erase hk
  rw [hframe k hne] at hk
  have hkd := hcleared k n hk hset
  exact hkd.trans (hdef fun heq => hne (hkd.trans heq)).symm

theorem addInterfaceToNetwork_onlyDefault (interface : String) :
    KeepsOnlyDefault (addInterfaceToNetwork rc netId interface) := by
  rintro ⟨c, s⟩ h
  simp only [addInterfaceToNetwork]
  split
  · exact h
  rename_i network hn
  have hput : OnlyDefault (c.putNetwork netId
      (addInterface rc c.virtualNetIds interface (network, s)).2.1) :=
    h.evolve hn (addInterface_evolves rc c.virtualNetIds interface network s)
  split
  · exact h
  split
  · exact hput
  split
  · exact hput.of_networks rfl rfl
  · exact hput

theorem removeInterfaceFromNetwork_onlyDefault (interface : String) :
    KeepsOnlyDefault (removeInterfaceFromNetwork rc netId interface) := by
  rintro ⟨c, s⟩ h
  simp only [removeInterfaceFromNetwork]
  split
  · exact h
  rename_i network hn
  exact h.evolve hn
    (removeInterface_evolves rc c.virtualNetIds interface network s fun _ => False)

end

theorem setPermissionForNetworks_onlyDefault (permission : Permission) (netIds : List Nat) :
    KeepsOnlyDefault (setPermissionForNetworks rc permission netIds) := by
  refine Call.Keeps.each (fun netId => ?_) netIds
  rintro ⟨c, s⟩ h
  dsimp only
  split
  · exact h
  · rename_i p hp
    exact h.evolve hp
      (PhysicalNetwork.setPermission_evolves rc c.virtualNetIds permission p s fun _ => False)
  · exact h

theorem addUsersToNetwork_onlyDefault (netId : Nat) (uidRanges : UidRanges) :
    KeepsOnlyDefault (addUsersToNetwork rc netId uidRanges) := by
  rintro ⟨c, s⟩ h
  simp only [addUsersToNetwork]
  split
  · exact h
  · exact h.put fun hset => by cases hset
  · exact h

theorem removeUsersFromNetwork_onlyDefault (netId : Nat) (uidRanges : UidRanges) :
    KeepsOnlyDefault (removeUsersFromNetwork rc netId uidRanges) := by
  rintro ⟨c, s⟩ h
  simp only [removeUsersFromNetwork]
  split
  · exact h
  · exact h.put fun hset => by cases hset
  · exact h

/-! ## The switch to another default network -/

def addDefaultRules (vpns : List Nat) (n : PhysicalNetwork) : Call σ :=
  Call.each (fun interface => addToDefault rc vpns interface n.mPermission) n.mInterfaces.keys

def removeDefaultRules (vpns : List Nat) (n : PhysicalNetwork) : Call σ :=
  Call.each (fun interface => removeFromDefault rc vpns interface n.mPermission) n.mInterfaces.keys

/-- The routing layer lets go of the old default network once it has added the rules of the new
one. -/
def LetsGo (st : NetworkController × σ) (netId : Nat) : Prop :=
  match st.1.getNetworkLocked netId, st.1.getNetworkLocked st.1.mDefaultNetId with
  | some (.physical new), some (.physical old) =>
    netId ≠ st.1.mDefaultNetId →
      (addDefaultRules rc st.1.virtualNetIds new st.2).1 = 0 →
      (removeDefaultRules rc st.1.virtualNetIds old
        (addDefaultRules rc st.1.virtualNetIds new st.2).2).1 = 0
  | _, _ => True

instance LetsGo.decidable (st : NetworkController × σ) (netId : Nat) :
    Decidable (LetsGo rc st netId) := by
  unfold LetsGo
  split
  · infer_instance
  · infer_instance

/-- The network is there and has its flag set. -/
def Flagged (c : NetworkController) (k : Nat) : Prop :=
  ∃ n, c.getNetworkLocked k = some n ∧ n.isDefault = true

variable {c : NetworkController} {k netId : Nat} {s : σ} {n : PhysicalNetwork}
  {st : NetworkController × σ} {vpns : List Nat}

theorem onlyDefault_iff : OnlyDefault c ↔ ∀ k, Flagged c k → k = c.mDefaultNetId := by
  constructor
  · rintro h k ⟨n, hn, hset⟩
    exact h k n hn hset
  · intro h k n hn hset
    exact h k ⟨n, hn, hset⟩

theorem flagged_put {k' : Nat} {n : Network} :
    Flagged (c.putNetwork k n) k' ↔ (k' = k ∧ n.isDefault = true) ∨ (k' ≠ k ∧ Flagged c k') := by
  simp only [Flagged, getNetworkLocked_put]
  split
  · next heq => simp [heq]
  · next hne => simp [hne]

theorem PhysicalNetwork.addAsDefault_flag
    (h : (PhysicalNetwork.addAsDefault rc vpns (n, s)).2.1.mIsDefault = true) :
    n.mIsDefault = true ∨ (PhysicalNetwork.addAsDefault rc vpns (n, s)).1 = 0 := by
  simp only [PhysicalNetwork.addAsDefault] at h ⊢
  split
  · next hset => exact .inl hset
  rename_i hnot
  rw [if_neg hnot] at h
  revert h
  exact commit_elim (P := fun r : Int × PhysicalNetwork × σ =>
    r.2.1.mIsDefault = true → _ ∨ r.1 = 0) (fun _ _ => .inr rfl) (fun _ h => .inl h)

/-- A network that still has its flag after `removeAsDefault` had it before, and
the call failed. -/
theorem PhysicalNetwork.removeAsDefault_flag
    (h : (PhysicalNetwork.removeAsDefault rc vpns (n, s)).2.1.mIsDefault = true) :
    n.mIsDefault = true ∧ (PhysicalNetwork.removeAsDefault rc vpns (n, s)).1 ≠ 0 := by
  simp only [PhysicalNetwork.removeAsDefault] at h ⊢
  split
  · rename_i hset
    rw [if_pos hset] at h
    revert h
    exact commit_elim (P := fun r : Int × PhysicalNetwork × σ =>
      r.2.1.mIsDefault = true → n.mIsDefault = true ∧ r.1 ≠ 0)
      (fun _ h => by cases h) (fun hz _ => ⟨hset, hz⟩)
  · rename_i hnot
    rw [if_neg hnot] at h
    exact absurd h hnot

theorem installDefault_physical (hset : netId ≠ netIdUnset)
    (hp : c.getNetworkLocked netId = some (.physical p)) (s : σ) :
    installDefault rc netId (c, s) =
      onNetwork .physical netId p (PhysicalNetwork.addAsDefault rc c.virtualNetIds) (c, s) := by
  simp only [installDefault]
  rw [if_pos hset, hp]

/-- Without a physical network to make default, nothing happens, and only unset
is accepted. -/
theorem installDefault_other (hother : ∀ p, c.getNetworkLocked netId ≠ some (.physical p)) (s : σ) :
    (installDefault rc netId (c, s)).2 = (c, s) ∧
      (netId ≠ netIdUnset → (installDefault rc netId (c, s)).1 ≠ 0) := by
  simp only [installDefault]
  split
  · split
    · exact ⟨rfl, fun _ => show (-enonet : Int) ≠ 0 by decide⟩
    · next p hp => exact absurd hp (hother p)
    · exact ⟨rfl, fun _ => show (-einval : Int) ≠ 0 by decide⟩
  · next hunset => exact ⟨rfl, fun hset => absurd hset hunset⟩

theorem retireDefault_unset (h : c.mDefaultNetId = netIdUnset) (s : σ) :
    retireDefault rc (c, s) = (0, (c, s)) :=
  if_neg (not_not.mpr h)

theorem retireDefault_physical (hset : c.mDefaultNetId ≠ netIdUnset)
    (hp : c.getNetworkLocked c.mDefaultNetId = some (.physical p)) (s : σ) :
    retireDefault rc (c, s) = onNetwork .physical c.mDefaultNetId p
      (PhysicalNetwork.removeAsDefault rc c.virtualNetIds) (c, s) := by
  simp only [retireDefault]
  rw [if_pos hset, hp]

theorem installDefault_flagged (hwf : WellFormed c)
    (h : Flagged (installDefault rc netId (c, s)).2.1 k) :
    Flagged c k ∨ (k = netId ∧ (installDefault rc netId (c, s)).1 = 0) := by
  by_cases hphys : ∃ p, c.getNetworkLocked netId = some (.physical p)
  · obtain ⟨p, hp⟩ := hphys
    rw [installDefault_physical rc (hwf.ne_unset hp) hp] at h ⊢
    rcases flagged_put.mp h with ⟨rfl, hflag⟩ | ⟨_, hold⟩
    · cases PhysicalNetwork.addAsDefault_flag rc hflag with
      | inl hbefore => exact .inl ⟨_, hp, hbefore⟩
      | inr hzero => exact .inr ⟨rfl, hzero⟩
    · exact .inl hold
  · rw [(installDefault_other rc (not_exists.mp hphys) s).1] at h
    exact .inl h

/-- The second half of the switch sets no flag, and clears that of the old default network when it
succeeds. -/
theorem retireDefault_flagged (hwf : WellFormed c) (h : Flagged (retireDefault rc (c, s)).2.1 k) :
    Flagged c k ∧ ((retireDefault rc (c, s)).1 = 0 → k ≠ c.mDefaultNetId) := by
  rcases hwf.default_ok with hunset | ⟨p, hp, _⟩
  · rw [retireDefault_unset rc hunset] at h ⊢
    obtain ⟨n, hn, hflag⟩ := h
    exact ⟨⟨n, hn, hflag⟩, fun _ heq => hwf.ne_unset hn (heq.trans hunset)⟩
  rw [retireDefault_physical rc (hwf.ne_unset hp) hp] at h ⊢
  rcases flagged_put.mp h with ⟨rfl, hflag⟩ | ⟨hne, hold⟩
  · obtain ⟨hbefore, hfail⟩ := PhysicalNetwork.removeAsDefault_flag rc hflag
    exact ⟨⟨_, hp, hbefore⟩, fun hzero => absurd hzero hfail⟩
  · exact ⟨hold, fun _ => hne⟩

theorem retireDefault_mDefaultNetId (c : NetworkController) (s : σ) :
    (retireDefault rc (c, s)).2.1.mDefaultNetId = c.mDefaultNetId := by
  simp only [retireDefault]
  split
  · split
    · rfl
    · rfl
  · rfl

/-- The switch breaks the property exactly when its second half fails after the
first one set a flag. -/
theorem setDefaultNetwork_onlyDefault_iff (hwf : WellFormed c) (h : OnlyDefault c)
    (hne : netId ≠ c.mDefaultNetId) :
    OnlyDefault (setDefaultNetwork rc netId (c, s)).2.1 ↔
      (netId ≠ netIdUnset → (installDefault rc netId (c, s)).1 = 0 →
        (retireDefault rc (installDefault rc netId (c, s)).2).1 = 0) := by
  have hwf' := installDefault_keeps rc netId (c, s) hwf
  have hdef := installDefault_mDefaultNetId rc netId c s
  simp only [setDefaultNetwork, if_neg hne]
  refine andThen_elim (P := fun r : Int × NetworkController × σ => OnlyDefault r.2.1 ↔ _)
    (fun hzero => ?_) (fun hfail => ?_)
  · refine andThen_elim (P := fun r : Int × NetworkController × σ => OnlyDefault r.2.1 ↔ _)
      (fun hretired => ?_) (fun hkept => ?_)
    · refine iff_of_true (onlyDefault_iff.mpr fun k hk => ?_) fun _ _ => hretired
      obtain ⟨hbefore, hnot⟩ := retireDefault_flagged rc hwf' hk
      cases installDefault_flagged rc hwf hbefore with
      | inl hold => exact absurd ((onlyDefault_iff.mp h k hold).trans hdef.symm) (hnot hretired)
      | inr hnew => exact hnew.1
    · rw [onlyDefault_iff, retireDefault_mDefaultNetId, hdef]
      by_cases hset : netId = netIdUnset
      · refine iff_of_true (fun k hk => ?_) fun hne => absurd hset hne
        obtain ⟨hbefore, _⟩ := retireDefault_flagged rc hwf' hk
        cases installDefault_flagged rc hwf hbefore with
        | inl hold => exact onlyDefault_iff.mp h k hold
        | inr hnew =>
          obtain ⟨n, hn, _⟩ := hbefore
          exact absurd (hnew.1.trans hset) (hwf'.ne_unset hn)
      · -- the new network has its flag, and the old one is still the default
        refine iff_of_false (fun honly => ?_) fun hall => hkept (hall hset hzero)
        obtain ⟨p, hp, hflag⟩ := (installDefault_installed rc netId c s hzero).resolve_left hset
        have hframe := (retireDefault_spec rc _ (installDefault rc netId (c, s)).2.2 hwf').2.1 netId
          (hdef.symm ▸ hne)
        exact hne (honly netId ⟨_, hframe.trans hp, hflag⟩)
  · refine iff_of_true (onlyDefault_iff.mpr fun k hk => ?_) fun _ hzero => absurd hzero hfail
    cases installDefault_flagged rc hwf hk with
    | inl hold => exact (onlyDefault_iff.mp h k hold).trans hdef.symm
    | inr hnew => exact absurd hnew.2 hfail

/-- The code of `addAsDefault` on a network that is not default yet. -/
theorem PhysicalNetwork.addAsDefault_rules (vpns : List Nat) (h : n.mIsDefault = false) (s : σ) :
    (PhysicalNetwork.addAsDefault rc vpns (n, s)).1 = (addDefaultRules rc vpns n s).1 ∧
      (PhysicalNetwork.addAsDefault rc vpns (n, s)).2.2 = (addDefaultRules rc vpns n s).2 := by
  simp only [PhysicalNetwork.addAsDefault, h, Bool.false_eq_true, if_false]
  exact commit_elim (P := fun r : Int × PhysicalNetwork × σ =>
    r.1 = (addDefaultRules rc vpns n s).1 ∧ r.2.2 = (addDefaultRules rc vpns n s).2)
    (fun hz => ⟨hz.symm, rfl⟩) (fun _ => ⟨rfl, rfl⟩)

theorem PhysicalNetwork.removeAsDefault_rules (vpns : List Nat) (h : n.mIsDefault = true) (s : σ) :
    (PhysicalNetwork.removeAsDefault rc vpns (n, s)).1 = (removeDefaultRules rc vpns n s).1 := by
  simp only [PhysicalNetwork.removeAsDefault, h, if_true]
  exact commit_elim (P := fun r : Int × PhysicalNetwork × σ =>
    r.1 = (removeDefaultRules rc vpns n s).1) (fun hz => hz.symm) (fun _ => rfl)

theorem virtualNetIds_sorted (c : NetworkController) : c.virtualNetIds.Pairwise (· < ·) :=
  List.pairwise_map.mpr (c.mNetworks.sorted.filter _)

theorem letsGo_of_not_physical (h : ∀ new old, st.1.getNetworkLocked netId = some (.physical new) →
      st.1.getNetworkLocked st.1.mDefaultNetId ≠ some (.physical old)) : LetsGo rc st netId := by
  unfold LetsGo
  split
  · next new old hnew hold => exact absurd hold (h new old hnew)
  · exact trivial

/-- `LetsGo` says of the routing calls what the two halves of the switch return. -/
theorem letsGo_iff (hwf : WellFormed c) (h : OnlyDefault c) (hne : netId ≠ c.mDefaultNetId) :
    LetsGo rc (c, s) netId ↔
      (netId ≠ netIdUnset → (installDefault rc netId (c, s)).1 = 0 →
        (retireDefault rc (installDefault rc netId (c, s)).2).1 = 0) := by
  by_cases hphys : ∃ p, c.getNetworkLocked netId = some (.physical p)
  · obtain ⟨p, hp⟩ := hphys
    have hset := hwf.ne_unset hp
    obtain ⟨hcode, hleft⟩ := addAsDefault_rules rc c.virtualNetIds (h.not_set hp hne) s
    have hsame := (PhysicalNetwork.addAsDefault_sameKind rc c.virtualNetIds p s fun _ => False).1
    have hvpns := (virtualNetIds_put hp hsame.type_eq).eq_of_pairwise' (virtualNetIds_sorted _)
      (virtualNetIds_sorted c)
    rw [installDefault_physical rc hset hp]
    simp only [onNetwork, hcode, hleft]
    rcases hwf.default_ok with hunset | ⟨q, hq, hflag⟩
    · rw [retireDefault_unset rc (by exact hunset)]
      refine iff_of_true (letsGo_of_not_physical rc fun _ old _ hold => ?_) fun _ _ => rfl
      exact hwf.ne_unset hold hunset
    have hq' : (c.putNetwork netId (.physical
        (PhysicalNetwork.addAsDefault rc c.virtualNetIds (p, s)).2.1)).getNetworkLocked
          c.mDefaultNetId = some (.physical q) := by
      rw [getNetworkLocked_put, if_neg hne.symm, hq]
    rw [retireDefault_physical rc (by exact hwf.ne_unset hq) hq', hvpns]
    simp only [onNetwork, removeAsDefault_rules rc c.virtualNetIds hflag]
    simp only [LetsGo, hp, hq]
    exact ⟨fun hgo _ => hgo hne, fun hall _ => hall hset⟩
  · refine iff_of_true (letsGo_of_not_physical rc fun p _ hp => absurd ⟨p, hp⟩ hphys) ?_
    exact fun hset hzero =>
      absurd hzero ((installDefault_other rc (not_exists.mp hphys) s).2 hset)

/-- `setDefaultNetwork` keeps the property exactly when the routing layer lets go
of the old default network. -/
theorem setDefaultNetwork_onlyDefault (hwf : WellFormed c) (h : OnlyDefault c) :
    OnlyDefault (setDefaultNetwork rc netId (c, s)).2.1 ↔ LetsGo rc (c, s) netId := by
  by_cases hne : netId = c.mDefaultNetId
  · refine iff_of_true ?_ ?_
    · simp only [setDefaultNetwork, if_pos hne]
      exact h
    · unfold LetsGo
      split
      · exact fun hne' => absurd hne hne'
      · exact trivial
  · rw [letsGo_iff rc hwf h hne]
    exact setDefaultNetwork_onlyDefault_iff rc hwf h hne

/-! ## Runs -/

/-- If the step is a switch, the routing layer lets go of the old default network. -/
def SwitchOk (st : NetworkController × σ) : Op → Prop
  | .setDefaultNetwork netId => LetsGo rc st netId
  | _ => True

instance SwitchOk.decidable (st : NetworkController × σ) (op : Op) :
    Decidable (SwitchOk rc st op) := by
  cases op <;> unfold SwitchOk <;> infer_instance

theorem step_onlyDefault (op : Op) (hwf : WellFormed st.1) (h : OnlyDefault st.1) :
    OnlyDefault (step rc op st).2.1 ↔ SwitchOk rc st op := by
  cases op with
  | setDefaultNetwork netId => exact setDefaultNetwork_onlyDefault rc hwf h
  | createPhysicalNetwork netId permission =>
    exact iff_of_true (createPhysicalNetwork_onlyDefault rc netId permission st h) trivial
  | createPhysicalOemNetwork permission =>
    exact iff_of_true (createPhysicalOemNetwork_onlyDefault rc permission st h) trivial
  | createVirtualNetwork netId secure =>
    exact iff_of_true (createVirtualNetwork_onlyDefault rc netId secure st h) trivial
  | destroyNetwork netId =>
    exact iff_of_true (destroyNetwork_onlyDefault rc netId st h) trivial
  | addInterfaceToNetwork netId interface =>
    exact iff_of_true (addInterfaceToNetwork_onlyDefault rc netId interface st h) trivial
  | removeInterfaceFromNetwork netId interface =>
    exact iff_of_true (removeInterfaceFromNetwork_onlyDefault rc netId interface st h) trivial
  | setPermissionForNetworks permission netIds =>
    exact iff_of_true (setPermissionForNetworks_onlyDefault rc permission netIds st h) trivial
  | addUsersToNetwork netId ranges =>
    exact iff_of_true (addUsersToNetwork_onlyDefault rc netId _ st h) trivial
  | removeUsersFromNetwork netId ranges =>
    exact iff_of_true (removeUsersFromNetwork_onlyDefault rc netId _ st h) trivial
  | modifyRoute netId interface add legacy uid =>
    refine iff_of_true ?_ trivial
    show OnlyDefault (modifyRoute rc netId interface add legacy uid (st.1, st.2)).2.1
    rw [modifyRoute_controller]
    exact h
  | removeInterfaceAddress ifIndex address =>
    obtain ⟨hn, hd⟩ := st.1.removeInterfaceAddressLocked_networks ifIndex address
    exact iff_of_true (h.of_networks hn hd) trivial
  | addInterfaceAddress ifIndex address =>
    refine iff_of_true ?_ trivial
    simp only [step, addInterfaceAddress]
    split
    · exact h
    · exact h.of_networks rfl rfl
  | setPermissionForUsers permission uids | allowProtect uids | denyProtect uids =>
    exact iff_of_true (h.of_networks rfl rfl) trivial

theorem onlyDefault_new : OnlyDefault new := by
  intro k n hk hset
  rcases getNetworkLocked_new hk with ⟨rfl, rfl⟩ | ⟨rfl, rfl⟩
  · cases hset
  · cases hset

/-- An operation always has a result. -/
def next (op : Op) (st : NetworkController × σ) : Option (NetworkController × σ) :=
  some (step rc op st).2

/-- An interface added to a network without the flag gets no rules of the default network. -/
theorem Network.addInterface_not_default {n : Network} (h : n.isDefault = false) (vpns : List Nat)
    (interface : String) (s : σ) (addDefault : String → Permission → Call σ)
    (addFallthrough : Nat → String → Permission → Call σ) :
    addInterface { rc with
        addInterfaceToDefaultNetwork := addDefault
        addVirtualNetworkFallthrough := addFallthrough } vpns interface (n, s) =
      addInterface rc vpns interface (n, s) := by
  cases n with
  | dummy n | «local» n | virtual n => rfl
  | physical n =>
    have hflag : n.mIsDefault = false := h
    simp only [addInterface, dispatch, PhysicalNetwork.addInterface, hflag,
      Bool.false_eq_true, if_false]

theorem addInterfaceToNetwork_not_default (h : OnlyDefault st.1) (hne : netId ≠ st.1.mDefaultNetId)
    (interface : String) (addDefault : String → Permission → Call σ)
    (addFallthrough : Nat → String → Permission → Call σ) :
    addInterfaceToNetwork { rc with
        addInterfaceToDefaultNetwork := addDefault
        addVirtualNetworkFallthrough := addFallthrough } netId interface st =
      addInterfaceToNetwork rc netId interface st := by
  simp only [addInterfaceToNetwork]
  split
  · rfl
  rename_i network hn
  have hflag : network.isDefault = false :=
    Bool.eq_false_iff.mpr fun hset => hne (h netId network hn hset)
  simp only [onNetwork, Network.addInterface_not_default rc hflag]
  rfl

/-- In every run in which the routing layer lets go of the old default network at each switch, no
physical network but the default has its flag, and an interface added to another gets no
default-network and no fallthrough rules. -/
theorem only_default_network_is_default {s : σ} {ops : List Op} {st : NetworkController × σ}
    (hrun : Lts.Run (next rc) (SwitchOk rc) (new, s) ops st) :
    (∀ k p, st.1.getNetworkLocked k = some (.physical p) → k ≠ st.1.mDefaultNetId →
        p.mIsDefault = false) ∧
      (∀ netId interface addDefault addFallthrough, netId ≠ st.1.mDefaultNetId →
        addInterfaceToNetwork { rc with
            addInterfaceToDefaultNetwork := addDefault
            addVirtualNetworkFallthrough := addFallthrough } netId interface st =
          addInterfaceToNetwork rc netId interface st) ∧
      ∀ op, OnlyDefault (step rc op st).2.1 ↔ SwitchOk rc st op := by
  have hinv : WellFormed st.1 ∧ OnlyDefault st.1 := by
    refine hrun.invariant (I := fun _ st => WellFormed st.1 ∧ OnlyDefault st.1)
      ⟨wellFormed_new, onlyDefault_new⟩ ?_
    rintro _ st op _ ⟨hwf, h⟩ hok hstep
    cases hstep
    exact ⟨step_keeps rc op st hwf, (step_onlyDefault rc op hwf h).mpr hok⟩
  obtain ⟨hwf, h⟩ := hinv
  refine ⟨fun k p hp hk => h.not_set hp hk, ?_, fun op => step_onlyDefault rc op hwf h⟩
  exact fun netId interface addDefault addFallthrough hne =>
    addInterfaceToNetwork_not_default rc h hne interface addDefault addFallthrough

end Operations

/-- Network 100 becomes default at the second attempt and is replaced by 101. -/
def retriedSwitch : List Op :=
  [.createPhysicalNetwork 100 .none, .createPhysicalNetwork 101 .none,
    .addInterfaceToNetwork 100 "wlan0", .setDefaultNetwork 100, .setDefaultNetwork 100,
    .setDefaultNetwork 101]

theorem only_default_network_is_default_retried :
    ∃ st ∈ Lts.exec (next scripted) (SwitchOk scripted) retriedSwitch (new, [0, -Errno.eexist]),
      st.1.mDefaultNetId = 101 ∧
        ∀ p, st.1.getNetworkLocked 100 = some (.physical p) → p.mIsDefault = false := by
  have hst : ∃ st ∈ Lts.exec (next scripted) (SwitchOk scripted) retriedSwitch
      (new, [0, -eexist]), st.1.mDefaultNetId = 101 := by
    decide +kernel
  obtain ⟨st, hexec, hdef⟩ := hst
  have hrun := Lts.Run.start.exec retriedSwitch hexec
  refine ⟨st, hexec, hdef, fun p hp => ?_⟩
  exact (only_default_network_is_default scripted hrun).1 100 p hp (by rw [hdef]; decide)

/-- The kernel refuses the thirteenth request, the first one of a removal. -/
def refusing : Routing :=
  { NetdNativeService.bareKernel with faults := List.replicate 12 .pass ++ [.refuse 0] }

/-- Network 100 is default with an interface, and the switch to 101 fails when the
rules of 100 are to be removed. -/
def refusedSwitch : NetworkController × Routing :=
  [Op.createPhysicalNetwork 100 .none, .createPhysicalNetwork 101 .none,
    .addInterfaceToNetwork 100 "wlan0", .setDefaultNetwork 100, .setDefaultNetwork 101].foldl
    (fun st op => (step RouteController.api op st).2) (new, refusing)

/-- After the refused switch network 101 has its flag while 100 is the default, and a new interface
of 101 gets a rule of the default network. -/
theorem refused_switch_leaves_two_defaults :
    Reachable RouteController.api refusedSwitch ∧ refusedSwitch.1.mDefaultNetId = 100 ∧
      (refusedSwitch.1.getNetworkLocked 101).any Network.isDefault = true ∧
      ∃ rule ∈ ((addInterfaceToNetwork RouteController.api 101 "rmnet0"
          refusedSwitch).2.2.rules .inet).toList,
        rule.priority = rulePriorityDefaultNetwork ∧
          rule.table = NetdNativeService.threeInterfaces "rmnet0" + routeTableOffsetFromIndex := by
  refine ⟨.step _ (.step _ (.step _ (.step _ (.step _ (.init _))))), ?_⟩
  decide +kernel

end Netd.NetworkController
