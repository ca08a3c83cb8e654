import Netd.Lib.Sim
import Netd.Server.WellFormed

/-!
# The interfaces an operation looks up

`Op.lookups` lists the interfaces whose routing table an operation may look up. `RouteApi.Sim A R
rc rc'` says that two routing layers do the same, up to `R`, in every call for an interface in `A`.
-/

namespace Netd

open List PhysicalNetwork Network VirtualNetwork LocalNetwork

/-- Two routing layers that do the same for the interfaces in `A`. -/
structure RouteApi.Sim {σ τ : Type} (A : String → Prop) (R : σ → τ → Prop) (rc : RouteApi σ)
    (rc' : RouteApi τ) : Prop where
  getIfIndex : ∀ i s t, R s t → rc.getIfIndex i s = rc'.getIfIndex i t
  addInterfaceToLocalNetwork : ∀ netId i, Call.Sim R
    (rc.addInterfaceToLocalNetwork netId i) (rc'.addInterfaceToLocalNetwork netId i)
  removeInterfaceFromLocalNetwork : ∀ netId i, Call.Sim R
    (rc.removeInterfaceFromLocalNetwork netId i) (rc'.removeInterfaceFromLocalNetwork netId i)
  addInterfaceToPhysicalNetwork : ∀ netId i p, A i → Call.Sim R
    (rc.addInterfaceToPhysicalNetwork netId i p) (rc'.addInterfaceToPhysicalNetwork netId i p)
  removeInterfaceFromPhysicalNetwork : ∀ netId i p, A i → Call.Sim R
    (rc.removeInterfaceFromPhysicalNetwork netId i p)
    (rc'.removeInterfaceFromPhysicalNetwork netId i p)
  addInterfaceToVirtualNetwork : ∀ netId i secure u, A i → Call.Sim R
    (rc.addInterfaceToVirtualNetwork netId i secure u)
    (rc'.addInterfaceToVirtualNetwork netId i secure u)
  removeInterfaceFromVirtualNetwork : ∀ netId i secure u, A i → Call.Sim R
    (rc.removeInterfaceFromVirtualNetwork netId i secure u)
    (rc'.removeInterfaceFromVirtualNetwork netId i secure u)
  modifyPhysicalNetworkPermission : ∀ netId i p q, A i → Call.Sim R
    (rc.modifyPhysicalNetworkPermission netId i p q)
    (rc'.modifyPhysicalNetworkPermission netId i p q)
  addUsersToVirtualNetwork : ∀ netId i secure u, A i → Call.Sim R
    (rc.addUsersToVirtualNetwork netId i secure u) (rc'.addUsersToVirtualNetwork netId i secure u)
  removeUsersFromVirtualNetwork : ∀ netId i secure u, A i → Call.Sim R
    (rc.removeUsersFromVirtualNetwork netId i secure u)
    (rc'.removeUsersFromVirtualNetwork netId i secure u)
  addInterfaceToDefaultNetwork : ∀ i p, A i → Call.Sim R
    (rc.addInterfaceToDefaultNetwork i p) (rc'.addInterfaceToDefaultNetwork i p)
  removeInterfaceFromDefaultNetwork : ∀ i p, A i → Call.Sim R
    (rc.removeInterfaceFromDefaultNetwork i p) (rc'.removeInterfaceFromDefaultNetwork i p)
  addVirtualNetworkFallthrough : ∀ vpn i p, A i → Call.Sim R
    (rc.addVirtualNetworkFallthrough vpn i p) (rc'.addVirtualNetworkFallthrough vpn i p)
  removeVirtualNetworkFallthrough : ∀ vpn i p, A i → Call.Sim R
    (rc.removeVirtualNetworkFallthrough vpn i p) (rc'.removeVirtualNetworkFallthrough vpn i p)
  modifyRoute : ∀ add i tableType, (tableType = .interface → A i) → Call.Sim R
    (rc.modifyRoute add i tableType) (rc'.modifyRoute add i tableType)

/-- The interfaces of a network that have a routing table. -/
def Network.tabled : Network → List String
  | .physical n => n.mInterfaces.keys
  | .virtual n => n.mInterfaces.keys
  | .local _ => []
  | .dummy _ => []

/-- The network looks up tables. -/
def Network.hasTables (n : Network) : Prop := n.getType = .physical ∨ n.getType = .virtual

theorem Network.mem_tabled {n : Network} {i : String} :
    i ∈ n.tabled ↔ n.hasTables ∧ i ∈ n.getInterfaces.keys := by
  cases n <;> simp [tabled, hasTables, getType, getInterfaces]

theorem Network.SameKind.tabled {n n' : Network} (h : Network.SameKind (fun _ => False) n n')
    {i : String} (hi : i ∈ n'.tabled) : i ∈ n.tabled := by
  obtain ⟨htype, hkey⟩ := mem_tabled.mp hi
  rw [hasTables, h.type_eq] at htype
  exact mem_tabled.mpr ⟨htype, (h.interfaces i hkey).resolve_right id⟩

/-! ## Methods of networks -/

section Methods

open Call (Agree)

variable {σ τ : Type} {A : String → Prop} {R : σ → τ → Prop} {rc : RouteApi σ} {rc' : RouteApi τ}
  {s : σ} {t : τ} {vpns : List Nat} {i : String} {permission : Permission}
  (h : RouteApi.Sim A R rc rc')
include h

theorem addToDefault_sim (hi : A i) :
    Call.Sim R (addToDefault rc vpns i permission) (addToDefault rc' vpns i permission) :=
  (h.addInterfaceToDefaultNetwork i permission hi).andThen
    (.each fun vpn _ => h.addVirtualNetworkFallthrough vpn i permission hi)

theorem removeFromDefault_sim (hi : A i) :
    Call.Sim R (removeFromDefault rc vpns i permission) (removeFromDefault rc' vpns i permission) :=
  (h.removeInterfaceFromDefaultNetwork i permission hi).andThen
    (.each fun vpn _ => h.removeVirtualNetworkFallthrough vpn i permission hi)

theorem invalidateRouteCache_sim (hi : A i) :
    Call.Sim R (invalidateRouteCache rc i) (invalidateRouteCache rc' i) :=
  .each fun _ _ => (h.modifyRoute true i .interface fun _ => hi).ignore.andThen
    (h.modifyRoute false i .interface fun _ => hi).ignore

section

variable {n : PhysicalNetwork}

theorem PhysicalNetwork.changePermission_sim (hn : ∀ i ∈ n.mInterfaces.keys, A i) :
    Call.Sim R (n.changePermission rc vpns permission)
      (n.changePermission rc' vpns permission) := by
  refine (Call.Sim.each fun i hi => ?_).andThen (.ite (fun _ => .each fun i hi => ?_) fun _ =>
    Call.sim_done)
  · exact (h.modifyPhysicalNetworkPermission _ i _ _ (hn i hi)).andThen
      (invalidateRouteCache_sim h (hn i hi))
  · exact (addToDefault_sim h (hn i hi)).andThen (removeFromDefault_sim h (hn i hi))

end

variable (hst : R s t)
include hst

section

variable {n : PhysicalNetwork}

section

variable (hn : ∀ i ∈ n.mInterfaces.keys, A i)
include hn

theorem PhysicalNetwork.setPermission_agrees : Agree R (setPermission rc vpns permission (n, s))
      (setPermission rc' vpns permission (n, t)) := by
  simp only [setPermission]
  split
  · exact .done hst
  split
  · exact .done hst
  · exact (changePermission_sim h hn).commit _ hst

theorem PhysicalNetwork.addAsDefault_agrees : Agree R (addAsDefault rc vpns (n, s))
      (addAsDefault rc' vpns (n, t)) := by
  simp only [addAsDefault]
  split
  · exact .done hst
  · exact (Call.Sim.each fun i hi => addToDefault_sim h (hn i hi)).commit _ hst

theorem PhysicalNetwork.removeAsDefault_agrees : Agree R (removeAsDefault rc vpns (n, s))
      (removeAsDefault rc' vpns (n, t)) := by
  simp only [removeAsDefault]
  split
  · exact (Call.Sim.each fun i hi => removeFromDefault_sim h (hn i hi)).commit _ hst
  · exact .done hst

end

theorem PhysicalNetwork.addInterface_agrees (hi : A i) : Agree R (addInterface rc vpns i (n, s))
      (addInterface rc' vpns i (n, t)) := by
  simp only [addInterface]
  split
  · exact .done hst
  · exact ((h.addInterfaceToPhysicalNetwork _ i _ hi).andThen
      (.ite (fun _ => addToDefault_sim h hi) fun _ => Call.sim_done)).commit _ hst

theorem PhysicalNetwork.removeInterface_agrees (hi : A i) :
    Agree R (removeInterface rc vpns i (n, s))
      (removeInterface rc' vpns i (n, t)) := by
  simp only [removeInterface]
  split
  · exact ((Call.Sim.ite (fun _ => removeFromDefault_sim h hi) fun _ => Call.sim_done).andThen
      (h.removeInterfaceFromPhysicalNetwork _ i _ hi)).commit _ hst
  · exact .done hst

end

section

variable {n : VirtualNetwork} {u : UidRanges}

theorem VirtualNetwork.addInterface_agrees (hi : A i) : Agree R (addInterface rc i (n, s))
      (addInterface rc' i (n, t)) := by
  simp only [addInterface]
  split
  · exact .done hst
  · exact (h.addInterfaceToVirtualNetwork _ i _ _ hi).commit _ hst

theorem VirtualNetwork.removeInterface_agrees (hi : A i) : Agree R (removeInterface rc i (n, s))
      (removeInterface rc' i (n, t)) := by
  simp only [removeInterface]
  split
  · exact (h.removeInterfaceFromVirtualNetwork _ i _ _ hi).commit _ hst
  · exact .done hst

end

section

variable {n : LocalNetwork}

theorem LocalNetwork.addInterface_agrees :
    Agree R (addInterface rc i (n, s)) (addInterface rc' i (n, t)) := by
  simp only [addInterface]
  split
  · exact .done hst
  · exact (h.addInterfaceToLocalNetwork _ i).commit _ hst

theorem LocalNetwork.removeInterface_agrees : Agree R (removeInterface rc i (n, s))
      (removeInterface rc' i (n, t)) := by
  simp only [removeInterface]
  split
  · exact (h.removeInterfaceFromLocalNetwork _ i).commit _ hst
  · exact .done hst

end

namespace Network

omit h hst in
theorem dispatch_agrees {ν : Type} {wrap : ν → Network} {m : Call (ν × σ)} {m' : Call (ν × τ)}
    {n : ν} (h : Agree R (m (n, s)) (m' (n, t))) :
    Agree R (dispatch wrap m n s) (dispatch wrap m' n t) :=
  ⟨h.code, congrArg wrap h.object, h.state⟩

variable {n : Network}

theorem addInterface_agrees (hi : n.hasTables → A i) :
    Agree R (addInterface rc vpns i (n, s)) (addInterface rc' vpns i (n, t)) := by
  cases n with
  | dummy n => exact .done hst
  | «local» n => exact dispatch_agrees (addInterface_agrees h hst)
  | physical n => exact dispatch_agrees (addInterface_agrees h hst (hi (.inl rfl)))
  | virtual n => exact dispatch_agrees (addInterface_agrees h hst (hi (.inr rfl)))

theorem removeInterface_agrees (hi : n.hasTables → A i) :
    Agree R (removeInterface rc vpns i (n, s)) (removeInterface rc' vpns i (n, t)) := by
  cases n with
  | dummy n => exact .done hst
  | «local» n => exact dispatch_agrees (removeInterface_agrees h hst)
  | physical n =>
    exact dispatch_agrees (removeInterface_agrees h hst (hi (.inl rfl)))
  | virtual n =>
    exact dispatch_agrees (removeInterface_agrees h hst (hi (.inr rfl)))

theorem clearInterfacesLoop_agrees (fuel : Nat) (hn : ∀ i ∈ n.tabled, A i) :
    Agree R (clearInterfacesLoop rc vpns fuel (n, s))
      (clearInterfacesLoop rc' vpns fuel (n, t)) := by
  induction fuel generalizing n s t with
  | zero => exact .done hst
  | succ fuel ih =>
    simp only [clearInterfacesLoop]
    split
    · exact .done hst
    rename_i i rest hkeys
    have hi : i ∈ n.getInterfaces.keys := hkeys ▸ mem_cons_self
    refine (removeInterface_agrees h hst fun ht => hn i (mem_tabled.mpr ⟨ht, hi⟩)).andThen
      fun n1 s1 t1 hrun hst1 => ih hst1 fun j hj => hn j ?_
    have hevo := removeInterface_evolves rc vpns i n s fun _ => False
    rw [hrun] at hevo
    exact hevo.toSameKind.tabled hj

theorem clearInterfaces_agrees (hn : ∀ i ∈ n.tabled, A i) :
    Agree R (clearInterfaces rc vpns (n, s)) (clearInterfaces rc' vpns (n, t)) :=
  clearInterfacesLoop_agrees h hst _ hn

end Network

end Methods

/-! ## Operations of the controller -/

namespace NetworkController

/-- The interfaces of the network `netId` that have a routing table. -/
def tabledInterfaces (c : NetworkController) (netId : Nat) : List String :=
  match c.getNetworkLocked netId with
  | some n => n.tabled
  | none => []

/-- `interface`, if the network `netId` has tables. -/
def tabledIn (c : NetworkController) (netId : Nat) (interface : String) : List String :=
  match c.getNetworkLocked netId with
  | some n => if n.getType = .physical ∨ n.getType = .virtual then [interface] else []
  | none => []

/-- The interfaces whose tables an operation may look up. -/
def Op.lookups (c : NetworkController) : Op → List String
  | .createVirtualNetwork _ _ => c.tabledInterfaces c.mDefaultNetId
  | .destroyNetwork netId =>
    c.tabledInterfaces netId ++
      if c.isVirtualNetworkLocked netId then c.tabledInterfaces c.mDefaultNetId else []
  | .addInterfaceToNetwork netId interface => c.tabledIn netId interface
  | .removeInterfaceFromNetwork netId interface => c.tabledIn netId interface
  | .setDefaultNetwork netId =>
    c.tabledInterfaces netId ++ c.tabledInterfaces c.mDefaultNetId
  | .setPermissionForNetworks _ netIds => netIds.flatMap c.tabledInterfaces
  | .addUsersToNetwork netId _ => c.tabledInterfaces netId
  | .removeUsersFromNetwork netId _ => c.tabledInterfaces netId
  | .modifyRoute netId interface _ legacy _ =>
    if netId = localNetId ∨ legacy = true then [] else [interface]
  | _ => []

section Operations

open Call (Agree)

variable {σ τ : Type} {A : String → Prop} {R : σ → τ → Prop} {rc : RouteApi σ} {rc' : RouteApi τ}
  {s : σ} {t : τ} {c : NetworkController} {netId : Nat} {i interface : String} {n : Network}
  {permission : Permission}

theorem mem_tabledInterfaces (hn : c.getNetworkLocked netId = some n) :
    i ∈ c.tabledInterfaces netId ↔ i ∈ n.tabled := by
  rw [tabledInterfaces, hn]

theorem mem_tabledIn (hn : c.getNetworkLocked netId = some n) :
    i ∈ c.tabledIn netId i ↔ n.hasTables := by
  rw [tabledIn, hn, hasTables]
  dsimp only
  split
  · next ht => exact iff_of_true mem_cons_self ht
  · next ht => exact iff_of_false not_mem_nil ht

/-- Writing back a network that got no interface brings no table. -/
theorem tabledInterfaces_put {k : Nat} {n' : Network} (hk : c.getNetworkLocked k = some n)
    (hsame : Network.SameKind (fun _ => False) n n')
    (hi : i ∈ (c.putNetwork k n').tabledInterfaces netId) : i ∈ c.tabledInterfaces netId := by
  rw [tabledInterfaces, getNetworkLocked_put] at hi
  by_cases heq : netId = k
  · rw [if_pos heq] at hi
    subst heq
    exact (mem_tabledInterfaces hk).mpr (hsame.tabled hi)
  · rw [if_neg heq] at hi
    exact hi

theorem onNetwork_agrees {ν : Type} {wrap : ν → Network} {n : ν} {m : Call (ν × σ)}
    {m' : Call (ν × τ)} (h : Agree R (m (n, s)) (m' (n, t))) :
    Agree R (onNetwork wrap netId n m (c, s)) (onNetwork wrap netId n m' (c, t)) :=
  ⟨h.code, congrArg (fun n => c.putNetwork netId (wrap n)) h.object, h.state⟩

theorem installDefault_tabled {c' : NetworkController} {s' : σ} {e : Int} {k : Nat}
    (hrun : installDefault rc netId (c, s) = (e, (c', s'))) (hi : i ∈ c'.tabledInterfaces k) :
    i ∈ c.tabledInterfaces k := by
  simp only [installDefault] at hrun
  split at hrun
  · split at hrun
    · cases hrun
      exact hi
    · rename_i p hp
      have hsame := addAsDefault_sameKind rc c.virtualNetIds p s fun _ => False
      cases hrun
      exact tabledInterfaces_put hp hsame.1 hi
    · cases hrun
      exact hi
  · cases hrun
    exact hi

/-- What `detach` looks up was to be looked up before the interfaces were cleared. -/
theorem lookups_put {n' : Network} (hk : c.getNetworkLocked netId = some n)
    (hsame : Network.SameKind (fun _ => False) n n')
    (hi : i ∈ (Op.destroyNetwork netId).lookups (c.putNetwork netId n')) :
    i ∈ (Op.destroyNetwork netId).lookups c := by
  have hvirtual : (c.putNetwork netId n').isVirtualNetworkLocked netId =
      c.isVirtualNetworkLocked netId := by
    rw [isVirtualNetworkLocked_eq hk, isVirtualNetworkLocked_eq (getNetworkLocked_put_self ..),
      hsame.type_eq]
  rw [Op.lookups, hvirtual] at hi
  rcases mem_append.mp hi with hown | hdefault
  · exact mem_append_left _ (tabledInterfaces_put hk hsame hown)
  refine mem_append_right _ ?_
  split at hdefault
  · rename_i hv
    rw [if_pos hv]
    exact tabledInterfaces_put hk hsame hdefault
  · cases hdefault

variable (h : RouteApi.Sim A R rc rc') (hst : R s t)
include h hst

theorem installDefault_agrees (hA : ∀ i ∈ c.tabledInterfaces netId, A i) :
    Agree R (installDefault rc netId (c, s)) (installDefault rc' netId (c, t)) := by
  simp only [installDefault]
  split
  · split
    · exact .done hst
    · rename_i p hp
      exact onNetwork_agrees (addAsDefault_agrees h hst fun i hi =>
        hA i ((mem_tabledInterfaces hp).mpr hi))
    · exact .done hst
  · exact .done hst

theorem retireDefault_agrees (hA : ∀ i ∈ c.tabledInterfaces c.mDefaultNetId, A i) :
    Agree R (retireDefault rc (c, s)) (retireDefault rc' (c, t)) := by
  simp only [retireDefault]
  split
  · split
    · rename_i p hp
      exact onNetwork_agrees (removeAsDefault_agrees h hst fun i hi =>
        hA i ((mem_tabledInterfaces hp).mpr hi))
    · exact .done hst
  · exact .done hst

theorem setDefaultNetwork_agrees (hA : ∀ i ∈ (Op.setDefaultNetwork netId).lookups c, A i) :
    Agree R (setDefaultNetwork rc netId (c, s)) (setDefaultNetwork rc' netId (c, t)) := by
  simp only [setDefaultNetwork]
  split
  · exact .done hst
  refine (installDefault_agrees h hst fun i hi => hA i (mem_append_left _ hi)).andThen
    fun c1 s1 t1 hrun hst1 => ?_
  have hd : c1.mDefaultNetId = c.mDefaultNetId := by
    rw [← installDefault_mDefaultNetId rc netId c s, hrun]
  refine (retireDefault_agrees h hst1 fun i hi => hA i (mem_append_right _ ?_)).andThen
    fun c2 s2 t2 _ hst2 => .done hst2
  rw [hd] at hi
  exact installDefault_tabled hrun hi

theorem modifyFallthroughLocked_agrees {add : Bool}
    (hA : ∀ i ∈ c.tabledInterfaces c.mDefaultNetId, A i) :
    Agree R (modifyFallthroughLocked rc netId add (c, s))
      (modifyFallthroughLocked rc' netId add (c, t)) := by
  simp only [modifyFallthroughLocked]
  split
  · exact .done hst
  split
  · exact .done hst
  · rename_i p hp
    refine (Call.Sim.each fun i hi => ?_).onSnd hst
    have hAi : A i := hA i ((mem_tabledInterfaces hp).mpr hi)
    exact .ite (fun _ => h.addVirtualNetworkFallthrough netId i _ hAi)
      fun _ => h.removeVirtualNetworkFallthrough netId i _ hAi
  · exact .done hst

theorem createPhysicalNetwork_agrees : Agree R (createPhysicalNetwork rc netId permission (c, s))
      (createPhysicalNetwork rc' netId permission (c, t)) := by
  have hnew : Agree R
      (setPermission rc c.virtualNetIds permission (.new netId, s))
      (setPermission rc' c.virtualNetIds permission (.new netId, t)) :=
    setPermission_agrees h hst fun i hi => absurd hi not_mem_nil
  simp only [createPhysicalNetwork]
  split
  · exact .done hst
  split
  · exact .done hst
  rw [← hnew.code, ← hnew.object]
  split
  · exact .done hnew.state
  · exact .done hnew.state

theorem createVirtualNetwork_agrees {secure : Bool}
    (hA : ∀ i ∈ c.tabledInterfaces c.mDefaultNetId, A i) :
    Agree R (createVirtualNetwork rc netId secure (c, s))
      (createVirtualNetwork rc' netId secure (c, t)) := by
  simp only [createVirtualNetwork]
  split
  · exact .done hst
  split
  · exact .done hst
  · exact (modifyFallthroughLocked_agrees h hst hA).andThen fun c1 s1 t1 _ hst1 => .done hst1

theorem detach_agrees (hA : ∀ i ∈ (Op.destroyNetwork netId).lookups c, A i) :
    Agree R (detach rc netId (c, s)) (detach rc' netId (c, t)) := by
  simp only [detach]
  split
  · split
    · rename_i p hp
      have hmethod : Agree R
          (onNetwork .physical netId p (removeAsDefault rc c.virtualNetIds) (c, s))
          (onNetwork .physical netId p (removeAsDefault rc' c.virtualNetIds)
            (c, t)) :=
        onNetwork_agrees (removeAsDefault_agrees h hst fun i hi =>
          hA i (mem_append_left _ ((mem_tabledInterfaces hp).mpr hi)))
      exact ⟨hmethod.code,
        congrArg (fun c : NetworkController => { c with mDefaultNetId := netIdUnset })
          hmethod.object, hmethod.state⟩
    · exact .done hst
  · split
    · rename_i hvirtual
      refine modifyFallthroughLocked_agrees h hst fun i hi =>
        hA i (mem_append_right _ ?_)
      rwa [if_pos hvirtual]
    · exact .done hst

theorem destroyNetwork_agrees (hA : ∀ i ∈ (Op.destroyNetwork netId).lookups c, A i) :
    Agree R (destroyNetwork rc netId (c, s)) (destroyNetwork rc' netId (c, t)) := by
  simp only [destroyNetwork]
  split
  · exact .done hst
  split
  · exact .done hst
  rename_i n hn
  have hclear : Agree R (clearInterfaces rc c.virtualNetIds (n, s))
      (clearInterfaces rc' c.virtualNetIds (n, t)) :=
    clearInterfaces_agrees h hst fun i hi =>
      hA i (mem_append_left _ ((mem_tabledInterfaces hn).mpr hi))
  have hevo := clearInterfaces_evolves rc c.virtualNetIds n s fun _ => False
  rcases hrun : clearInterfaces rc c.virtualNetIds (n, s) with ⟨e, n1, s1⟩
  rcases hrun' : clearInterfaces rc' c.virtualNetIds (n, t) with ⟨e', n1', t1⟩
  rw [hrun, hrun'] at hclear
  rw [hrun] at hevo
  obtain ⟨rfl, rfl, hst1⟩ := hclear
  simp only [onNetwork, hrun, hrun']
  have hdetach : Agree R (detach rc netId (c.putNetwork netId (id n1), s1))
      (detach rc' netId (c.putNetwork netId (id n1), t1)) :=
    detach_agrees h hst1 fun i hi => hA i (lookups_put hn hevo.toSameKind hi)
  rw [← hdetach.code]
  exact ⟨rfl, congrArg (fun c => eraseNetwork c netId) hdetach.object, hdetach.state⟩

theorem addInterfaceToNetwork_agrees (hA : ∀ i ∈ c.tabledIn netId interface, A i) :
    Agree R (addInterfaceToNetwork rc netId interface (c, s))
      (addInterfaceToNetwork rc' netId interface (c, t)) := by
  simp only [addInterfaceToNetwork]
  split
  · exact .done hst
  rename_i n hn
  split
  · exact .done hst
  have hadd : Agree R (addInterface rc c.virtualNetIds interface (n, s))
      (addInterface rc' c.virtualNetIds interface (n, t)) :=
    addInterface_agrees h hst fun ht => hA interface ((mem_tabledIn hn).mpr ht)
  rcases hrun : addInterface rc c.virtualNetIds interface (n, s) with ⟨e, n1, s1⟩
  rcases hrun' : addInterface rc' c.virtualNetIds interface (n, t) with ⟨e', n1', t1⟩
  rw [hrun, hrun'] at hadd
  obtain ⟨rfl, rfl, hst1⟩ := hadd
  simp only [onNetwork, hrun, hrun']
  rw [← h.getIfIndex interface s1 t1 hst1]
  split
  · exact .done hst1
  split
  · exact .done hst1
  · exact .done hst1

theorem removeInterfaceFromNetwork_agrees (hA : ∀ i ∈ c.tabledIn netId interface, A i) :
    Agree R (removeInterfaceFromNetwork rc netId interface (c, s))
      (removeInterfaceFromNetwork rc' netId interface (c, t)) := by
  simp only [removeInterfaceFromNetwork]
  split
  · exact .done hst
  rename_i n hn
  exact onNetwork_agrees (removeInterface_agrees h hst fun ht =>
    hA interface ((mem_tabledIn hn).mpr ht))

/-- The loop writes networks back, which brings no table. -/
theorem setPermissionForNetworks_agrees {netIds : List Nat}
    (hA : ∀ k ∈ netIds, ∀ i ∈ c.tabledInterfaces k, A i) :
    Agree R (setPermissionForNetworks rc permission netIds (c, s))
      (setPermissionForNetworks rc' permission netIds (c, t)) := by
  rw [setPermissionForNetworks, setPermissionForNetworks]
  induction netIds generalizing c s t with
  | nil => exact .done hst
  | cons k ks ih =>
    refine Agree.andThen ?_ fun c1 s1 t1 hrun hst1 =>
      ih hst1 fun j hj i hi => hA j (mem_cons_of_mem _ hj) i ?_
    · dsimp only
      split
      · exact .done hst
      · rename_i p hp
        exact onNetwork_agrees (setPermission_agrees h hst fun i hi =>
          hA k mem_cons_self i ((mem_tabledInterfaces hp).mpr hi))
      · exact .done hst
    · dsimp only at hrun
      split at hrun
      · cases hrun
      · rename_i p hp
        have hevo := setPermission_evolves rc c.virtualNetIds permission p s
          fun _ => False
        obtain ⟨rfl, _⟩ := Prod.mk.inj (Prod.mk.inj hrun).2
        exact tabledInterfaces_put hp hevo.toSameKind hi
      · cases hrun

theorem modifyRoute_agrees {add legacy : Bool}
    {uid : Uid} (hA : ∀ i ∈ (Op.modifyRoute netId interface add legacy uid).lookups c, A i) :
    Agree R (modifyRoute rc netId interface add legacy uid (c, s))
      (modifyRoute rc' netId interface add legacy uid (c, t)) := by
  simp only [modifyRoute]
  split
  · exact .done hst
  split
  · exact .done hst
  split
  · exact .done hst
  refine (h.modifyRoute add interface _ fun htype => hA interface ?_).onSnd hst
  rw [Op.lookups]
  split at htype
  · cases htype
  split at htype
  · split at htype
    · cases htype
    · cases htype
  rw [if_neg (by tauto)]
  exact mem_cons_self

theorem step_agrees (op : Op)
    (hA : ∀ i ∈ op.lookups c, A i) : Agree R (step rc op (c, s)) (step rc' op (c, t)) := by
  cases op with
  | createPhysicalNetwork netId permission => exact createPhysicalNetwork_agrees h hst
  | createPhysicalOemNetwork permission =>
    simp only [step, createPhysicalOemNetwork]
    split
    · exact .done hst
    · exact createPhysicalNetwork_agrees h hst
  | createVirtualNetwork netId secure => exact createVirtualNetwork_agrees h hst hA
  | destroyNetwork netId => exact destroyNetwork_agrees h hst hA
  | addInterfaceToNetwork netId interface => exact addInterfaceToNetwork_agrees h hst hA
  | removeInterfaceFromNetwork netId interface => exact removeInterfaceFromNetwork_agrees h hst hA
  | setDefaultNetwork netId => exact setDefaultNetwork_agrees h hst hA
  | setPermissionForUsers permission uids => exact .done hst
  | setPermissionForNetworks permission netIds =>
    exact setPermissionForNetworks_agrees h hst fun k hk i hi =>
      hA i (mem_flatMap.mpr ⟨k, hk, hi⟩)
  | addUsersToNetwork netId ranges =>
    simp only [step, addUsersToNetwork]
    split
    · exact .done hst
    · rename_i v hv
      refine onNetwork_agrees ?_
      simp only [addUsers]
      exact (Call.Sim.each fun i hi => h.addUsersToVirtualNetwork _ i _ _
        (hA i ((mem_tabledInterfaces hv).mpr hi))).commit _ hst
    · exact .done hst
  | removeUsersFromNetwork netId ranges =>
    simp only [step, removeUsersFromNetwork]
    split
    · exact .done hst
    · rename_i v hv
      refine onNetwork_agrees ?_
      simp only [removeUsers]
      exact (Call.Sim.each fun i hi => h.removeUsersFromVirtualNetwork _ i _ _
        (hA i ((mem_tabledInterfaces hv).mpr hi))).commit _ hst
    · exact .done hst
  | modifyRoute netId interface add legacy uid => exact modifyRoute_agrees h hst hA
  | addInterfaceAddress ifIndex address =>
    simp only [step, addInterfaceAddress]
    split
    · exact .done hst
    · exact .done hst
  | removeInterfaceAddress ifIndex address | allowProtect uids | denyProtect uids => exact .done hst

end Operations

end NetworkController

end Netd
