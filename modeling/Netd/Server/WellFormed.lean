import Netd.Server.NetworkController

/-!
# Well-formed controllers

The invariant of `NetworkController` that no failure below it can break: the routing layer is an
arbitrary `RouteApi`. `Shape` is the part about the table of networks, and `WellFormed` adds that
the default network is a physical one that knows it is default.
-/

namespace Netd

open Network OrdMap Call Option

/-! ## What a method does to its object -/

namespace Network

/-- The flag `mIsDefault`, which only a physical network has. -/
def isDefault : Network → Bool
  | .physical p => p.mIsDefault
  | _ => false

/-- `n'` has the type and netId of `n`, and its new interfaces satisfy `fresh`. -/
structure SameKind (fresh : String → Prop) (n n' : Network) : Prop where
  type_eq : n'.getType = n.getType
  netId_eq : n'.getNetId = n.getNetId
  interfaces : ∀ i ∈ n'.getInterfaces.keys, i ∈ n.getInterfaces.keys ∨ fresh i

/-- The object is still of its kind and has its default flag as before. -/
structure Evolves (fresh : String → Prop) (n n' : Network) : Prop extends
    SameKind fresh n n' where
  default_eq : n'.isDefault = n.isDefault

variable {fresh : String → Prop}

theorem SameKind.refl (n : Network) : SameKind fresh n n := ⟨rfl, rfl, fun _ hi => .inl hi⟩

theorem Evolves.refl (n : Network) : Evolves fresh n n := ⟨SameKind.refl n, rfl⟩

theorem Evolves.trans {a b c : Network} (hab : Evolves fresh a b) (hbc : Evolves fresh b c) :
    Evolves fresh a c where
  type_eq := hbc.type_eq.trans hab.type_eq
  netId_eq := hbc.netId_eq.trans hab.netId_eq
  interfaces i hi := by
    cases hbc.interfaces i hi with
    | inl hb => exact hab.interfaces i hb
    | inr hf => exact .inr hf
  default_eq := hbc.default_eq.trans hab.default_eq

end Network

open Network (SameKind Evolves)

section Methods

variable {σ : Type} (rc : RouteApi σ)

theorem commit_object {ν : Type} {P : ν → Prop} {m : Call σ} {f : ν → ν} {n : ν} {s : σ}
    (hn : P n) (hf : P (f n)) : P (commit m f (n, s)).2.1 :=
  commit_elim (P := fun r => P r.2.1) (fun _ => hf) (fun _ => hn)

theorem commit_evolves {ν : Type} {fresh : String → Prop} {wrap : ν → Network} {m : Call σ}
    {f : ν → ν} {n : ν} {s : σ} (hf : Evolves fresh (wrap n) (wrap (f n))) :
    Evolves fresh (wrap n) (wrap (commit m f (n, s)).2.1) :=
  commit_object (P := fun n' => Evolves fresh (wrap n) (wrap n')) (.refl _) hf

section

variable (vpns : List Nat)

theorem PhysicalNetwork.setPermission_evolves (permission : Permission)
    (n : PhysicalNetwork) (s : σ) (fresh : String → Prop) :
    Evolves fresh (.physical n)
      (.physical (PhysicalNetwork.setPermission rc vpns permission (n, s)).2.1) := by
  have hnew : Evolves fresh (.physical n) (.physical { n with mPermission := permission }) :=
    ⟨⟨rfl, rfl, fun _ hi => .inl hi⟩, rfl⟩
  simp only [PhysicalNetwork.setPermission]
  split
  · exact .refl _
  split
  · exact hnew
  · exact commit_evolves hnew

/-- `addAsDefault` sets the flag or leaves the object alone. -/
theorem PhysicalNetwork.addAsDefault_sameKind (n : PhysicalNetwork) (s : σ)
    (fresh : String → Prop) :
    SameKind fresh (.physical n)
        (.physical (PhysicalNetwork.addAsDefault rc vpns (n, s)).2.1) ∧
      (n.mIsDefault = true →
        (PhysicalNetwork.addAsDefault rc vpns (n, s)).2.1.mIsDefault = true) := by
  simp only [PhysicalNetwork.addAsDefault]
  split
  · exact ⟨.refl _, fun h => h⟩
  exact commit_object (P := fun n' => SameKind fresh (.physical n) (.physical n') ∧
      (n.mIsDefault = true → n'.mIsDefault = true))
    ⟨.refl _, fun h => h⟩ ⟨⟨rfl, rfl, fun _ hi => .inl hi⟩, fun _ => rfl⟩

theorem PhysicalNetwork.addAsDefault_isDefault (n : PhysicalNetwork) (s : σ)
    (h : (PhysicalNetwork.addAsDefault rc vpns (n, s)).1 = 0) :
    (PhysicalNetwork.addAsDefault rc vpns (n, s)).2.1.mIsDefault = true := by
  simp only [PhysicalNetwork.addAsDefault] at h ⊢
  split
  · next hd => exact hd
  rename_i hd
  rw [if_neg hd] at h
  revert h
  exact commit_elim (P := fun r : Int × PhysicalNetwork × σ =>
    r.1 = 0 → r.2.1.mIsDefault = true)
    (fun _ _ => rfl) (fun hz h => absurd h hz)

theorem PhysicalNetwork.removeAsDefault_sameKind (n : PhysicalNetwork) (s : σ)
    (fresh : String → Prop) :
    SameKind fresh (.physical n)
      (.physical (PhysicalNetwork.removeAsDefault rc vpns (n, s)).2.1) := by
  simp only [PhysicalNetwork.removeAsDefault]
  split
  · exact commit_object (P := fun n' => SameKind fresh (.physical n) (.physical n'))
      (.refl _) ⟨rfl, rfl, fun _ hi => .inl hi⟩
  · exact .refl _

end

theorem VirtualNetwork.addUsers_evolves (uidRanges : UidRanges) (n : VirtualNetwork) (s : σ)
    (fresh : String → Prop) :
    Evolves fresh (.virtual n) (.virtual (VirtualNetwork.addUsers rc uidRanges (n, s)).2.1) :=
  commit_evolves ⟨⟨rfl, rfl, fun _ hi => .inl hi⟩, rfl⟩

theorem VirtualNetwork.removeUsers_evolves (uidRanges : UidRanges) (n : VirtualNetwork) (s : σ)
    (fresh : String → Prop) :
    Evolves fresh (.virtual n) (.virtual (VirtualNetwork.removeUsers rc uidRanges (n, s)).2.1) :=
  commit_evolves ⟨⟨rfl, rfl, fun _ hi => .inl hi⟩, rfl⟩

theorem mem_insert_interface {xs : OrdSet String} {interface : String} {i : String}
    (h : i ∈ (xs.insert interface ()).keys) : i ∈ xs.keys ∨ i = interface :=
  (mem_keys_insert.mp h).symm

section

variable (vpns : List Nat)

theorem Network.addInterface_evolves (interface : String) (n : Network) (s : σ) :
    Evolves (fun i => i = interface) n (addInterface rc vpns interface (n, s)).2.1 := by
  cases n with
  | dummy n => exact .refl _
  | «local» n | physical n | virtual n =>
    simp only [addInterface, dispatch, LocalNetwork.addInterface, PhysicalNetwork.addInterface,
      VirtualNetwork.addInterface]
    split
    · exact .refl _
    · exact commit_evolves ⟨⟨rfl, rfl, fun _ => mem_insert_interface⟩, rfl⟩

theorem Network.removeInterface_evolves (interface : String) (n : Network)
    (s : σ) (fresh : String → Prop) :
    Evolves fresh n (removeInterface rc vpns interface (n, s)).2.1 := by
  have hsub : ∀ {xs : OrdSet String} {i}, i ∈ (xs.erase interface).keys → i ∈ xs.keys ∨ fresh i :=
    fun hi => .inl (mem_keys_erase.mp hi).1
  cases n with
  | dummy n => exact .refl _
  | «local» n | physical n | virtual n =>
    simp only [removeInterface, dispatch, LocalNetwork.removeInterface,
      PhysicalNetwork.removeInterface, VirtualNetwork.removeInterface]
    split
    · exact commit_evolves ⟨⟨rfl, rfl, fun _ => hsub⟩, rfl⟩
    · exact .refl _

theorem Network.clearInterfacesLoop_evolves (fresh : String → Prop)
    (fuel : Nat) (n : Network) (s : σ) :
    Evolves fresh n (clearInterfacesLoop rc vpns fuel (n, s)).2.1 := by
  induction fuel generalizing n s with
  | zero => exact .refl _
  | succ fuel ih =>
    simp only [clearInterfacesLoop]
    split
    · exact .refl _
    have hone := removeInterface_evolves rc vpns ‹_› n s fresh
    exact andThen_elim (P := fun r : Int × Network × σ => Evolves fresh n r.2.1)
      (fun _ => hone.trans (ih _ _)) (fun _ => hone)

theorem Network.clearInterfaces_evolves (n : Network) (s : σ)
    (fresh : String → Prop) : Evolves fresh n (clearInterfaces rc vpns (n, s)).2.1 :=
  clearInterfacesLoop_evolves rc vpns fresh _ n s

end

end Methods

namespace NetworkController

/-! ## The table of networks -/

/-- The netIds a network of each type may have. -/
def netIdInRange (netId : Nat) : NetworkType → Prop
  | .physical => (1 ≤ netId ∧ netId ≤ 50) ∨ (100 ≤ netId ∧ netId ≤ 65535)
  | .virtual => 100 ≤ netId ∧ netId ≤ 65535
  | .local => netId = localNetId
  | .dummy => netId = dummyNetId

/-- The table of networks is well formed. -/
structure Shape (c : NetworkController) : Prop where
  netId_eq : ∀ k n, c.getNetworkLocked k = some n → n.getNetId = k
  in_range : ∀ k n, c.getNetworkLocked k = some n → netIdInRange k n.getType
  has_local : ∃ n, c.getNetworkLocked localNetId = some (.local n)
  /-- No interface is in two networks. -/
  one_network : ∀ k₁ n₁ k₂ n₂ i, c.getNetworkLocked k₁ = some n₁ → c.getNetworkLocked k₂ = some n₂ →
    i ∈ n₁.getInterfaces.keys → i ∈ n₂.getInterfaces.keys → k₁ = k₂

/-- The default network, if there is one, is physical and has its flag set. -/
def DefaultOk (c : NetworkController) : Prop :=
  c.mDefaultNetId = netIdUnset ∨
    ∃ p, c.getNetworkLocked c.mDefaultNetId = some (.physical p) ∧ p.mIsDefault = true

structure WellFormed (c : NetworkController) : Prop extends Shape c where
  default_ok : DefaultOk c

section

variable (c : NetworkController)

theorem getNetworkLocked_put (k : Nat) (n : Network) (k' : Nat) :
    (c.putNetwork k n).getNetworkLocked k' = if k' = k then some n else c.getNetworkLocked k' :=
  find?_insert c.mNetworks k n k'

theorem getNetworkLocked_put_self (k : Nat) (n : Network) :
    (c.putNetwork k n).getNetworkLocked k = some n :=
  find?_insert_self c.mNetworks k n

theorem getNetworkLocked_erase (k k' : Nat) :
    (c.eraseNetwork k).getNetworkLocked k' = if k' = k then none else c.getNetworkLocked k' :=
  find?_erase c.mNetworks k k'

end

variable {c : NetworkController} {k : Nat} {n n' : Network}

theorem getNetworkLocked_of_erase {k' : Nat} (h : (c.eraseNetwork k).getNetworkLocked k' = some n) :
    k' ≠ k ∧ c.getNetworkLocked k' = some n :=
  find?_of_erase h

theorem isVirtualNetworkLocked_eq (hn : c.getNetworkLocked k = some n) :
    c.isVirtualNetworkLocked k = decide (n.getType = .virtual) := by
  rw [isVirtualNetworkLocked, hn]
  rfl

theorem isValidNetworkLocked_eq_false :
    c.isValidNetworkLocked k = false ↔ c.getNetworkLocked k = none := by
  rw [isValidNetworkLocked, isSome_eq_false_iff, isNone_iff_eq_none]

variable {c' : NetworkController} {fresh : String → Prop}

theorem Shape.of_networks (h : Shape c) (he : c'.mNetworks = c.mNetworks) : Shape c' := by
  have hget : c'.getNetworkLocked = c.getNetworkLocked := by
    funext k
    rw [getNetworkLocked, getNetworkLocked, he]
  exact ⟨hget ▸ h.netId_eq, hget ▸ h.in_range, hget ▸ h.has_local, hget ▸ h.one_network⟩

theorem WellFormed.of_networks (h : WellFormed c) (he : c'.mNetworks = c.mNetworks)
    (hd : c'.mDefaultNetId = c.mDefaultNetId) : WellFormed c' := by
  refine ⟨h.toShape.of_networks he, ?_⟩
  have hdef := h.default_ok
  rwa [DefaultOk, getNetworkLocked, ← hd, ← he] at hdef

section

variable (h : Shape c)
include h

theorem Shape.enter (hfree : c.getNetworkLocked k = none) (hid : n.getNetId = k)
    (hrange : netIdInRange k n.getType) (hempty : n.getInterfaces.keys = []) :
    Shape (c.putNetwork k n) := by
  refine ⟨forall_insert h.netId_eq hid, forall_insert h.in_range hrange, ?_,
    fun k1 n1 k2 n2 i h1 h2 hi1 hi2 => ?_⟩
  · obtain ⟨l, hl⟩ := h.has_local
    refine ⟨l, ?_⟩
    rw [getNetworkLocked_put, if_neg, hl]
    intro heq
    rw [heq, hfree] at hl
    cases hl
  · rw [getNetworkLocked_put] at h1 h2
    split at h1
    · cases h1; rw [hempty] at hi1; cases hi1
    split at h2
    · cases h2; rw [hempty] at hi2; cases hi2
    · exact h.one_network k1 n1 k2 n2 i h1 h2 hi1 hi2

/-- The table survives a method that keeps the kind of its object, if no other network has the new
interfaces. -/
theorem Shape.put (hn : c.getNetworkLocked k = some n) (hsame : SameKind fresh n n')
    (hfresh : ∀ i, fresh i → ∀ k2 n2, c.getNetworkLocked k2 = some n2 →
      i ∈ n2.getInterfaces.keys → k2 = k) : Shape (c.putNetwork k n') := by
  -- an interface of the new object can only be in the network it belongs to
  have hown : ∀ i k2 n2, i ∈ n'.getInterfaces.keys → c.getNetworkLocked k2 = some n2 →
      i ∈ n2.getInterfaces.keys → k2 = k := by
    intro i k2 n2 hi h2 hi2
    cases hsame.interfaces i hi with
    | inl hold => exact h.one_network k2 n2 k n i h2 hn hi2 hold
    | inr hf => exact hfresh i hf k2 n2 h2 hi2
  refine ⟨forall_insert h.netId_eq (hsame.netId_eq.trans (h.netId_eq k n hn)),
    forall_insert h.in_range (hsame.type_eq ▸ h.in_range k n hn), ?_,
    fun k1 n1 k2 n2 i h1 h2 hi1 hi2 => ?_⟩
  · obtain ⟨l, hl⟩ := h.has_local
    rw [getNetworkLocked_put]
    split
    · rename_i heq
      rw [heq, hn] at hl
      cases hl
      cases n' with
      | «local» l' => exact ⟨l', rfl⟩
      | dummy _ | physical _ | virtual _ => cases hsame.type_eq
    · exact ⟨l, hl⟩
  · rw [getNetworkLocked_put] at h1 h2
    split at h1
    · rename_i heq1
      cases h1
      split at h2
      · next heq2 => exact heq1.trans heq2.symm
      · exact heq1.trans (hown i k2 n2 hi1 h2 hi2).symm
    · split at h2
      · rename_i heq2
        cases h2
        exact (hown i k1 n1 hi2 h1 hi1).trans heq2.symm
      · exact h.one_network k1 n1 k2 n2 i h1 h2 hi1 hi2

theorem Shape.put_old (hn : c.getNetworkLocked k = some n)
    (hsame : SameKind (fun _ => False) n n') : Shape (c.putNetwork k n') :=
  h.put hn hsame fun _ hf => hf.elim

theorem Shape.erase (hk : k ≠ localNetId) : Shape (c.eraseNetwork k) := by
  have hget : ∀ {k' n}, (c.eraseNetwork k).getNetworkLocked k' = some n →
      c.getNetworkLocked k' = some n := fun hk' => (getNetworkLocked_of_erase hk').2
  refine ⟨fun k' n hk' => h.netId_eq k' n (hget hk'), fun k' n hk' => h.in_range k' n (hget hk'),
    ?_, fun k1 n1 k2 n2 i h1 h2 => h.one_network k1 n1 k2 n2 i (hget h1) (hget h2)⟩
  obtain ⟨l, hl⟩ := h.has_local
  exact ⟨l, by rw [getNetworkLocked_erase, if_neg hk.symm, hl]⟩

section

variable (hn : c.getNetworkLocked k = some n)
include hn

theorem Shape.key_bounds : 0 < k ∧ k ≤ 65535 := by
  have hr := h.in_range k n hn
  cases ht : n.getType with
  | dummy | «local» =>
    rw [ht] at hr
    exact hr.symm ▸ (by decide)
  | physical =>
    rw [ht] at hr
    rcases hr with hoem | hnet
    · omega
    · omega
  | virtual =>
    rw [ht] at hr
    obtain ⟨hlo, hhi⟩ := hr
    omega

theorem Shape.ne_unset : k ≠ netIdUnset := (h.key_bounds hn).1.ne'

theorem Shape.getNetworkForInterface {i : String}
    (hi : i ∈ n.getInterfaces.keys) : c.getNetworkForInterfaceLocked i = k := by
  rw [getNetworkForInterfaceLocked]
  cases hf : c.mNetworks.entries.find? fun e => e.2.hasInterface i with
  | none =>
    have hmem := find?_eq_some.mp hn
    exact absurd (contains_iff.mpr hi) (List.find?_eq_none.mp hf _ hmem)
  | some e =>
    have hhas := List.find?_some hf
    have he : i ∈ e.2.getInterfaces.keys := contains_iff.mp hhas
    have hget : c.getNetworkLocked e.1 = some e.2 :=
      find?_eq_some.mpr (List.mem_of_find?_eq_some hf)
    exact h.one_network e.1 e.2 k n i hget hn he hi

end

end

/-! ## Operations -/

theorem WellFormed.enter (h : WellFormed c) (hfree : c.getNetworkLocked k = none)
    (hid : n.getNetId = k) (hrange : netIdInRange k n.getType)
    (hempty : n.getInterfaces.keys = []) : WellFormed (c.putNetwork k n) := by
  refine ⟨h.toShape.enter hfree hid hrange hempty, ?_⟩
  rcases h.default_ok with hunset | ⟨p, hp, hflag⟩
  · exact .inl hunset
  refine .inr ⟨p, ?_, hflag⟩
  rw [getNetworkLocked_put, if_neg]
  · exact hp
  · intro heq
    rw [show c.mDefaultNetId = k from heq, hfree] at hp
    cases hp

theorem WellFormed.put (h : WellFormed c) (hn : c.getNetworkLocked k = some n)
    (hsame : SameKind fresh n n') (hkept : n.isDefault = true → n'.isDefault = true)
    (hfresh : ∀ i, fresh i → ∀ k2 n2, c.getNetworkLocked k2 = some n2 →
      i ∈ n2.getInterfaces.keys → k2 = k) : WellFormed (c.putNetwork k n') := by
  refine ⟨h.toShape.put hn hsame hfresh, ?_⟩
  rcases h.default_ok with hunset | ⟨p, hp, hflag⟩
  · exact .inl hunset
  refine .inr ?_
  show ∃ p, (c.putNetwork k n').getNetworkLocked c.mDefaultNetId = some (.physical p) ∧ _
  rw [getNetworkLocked_put]
  split
  · rename_i heq
    rw [heq, hn] at hp
    cases hp
    have hflag' := hkept hflag
    cases n' with
    | physical p' => exact ⟨p', rfl, hflag'⟩
    | «local» _ | dummy _ | virtual _ => cases hflag'
  · exact ⟨p, hp, hflag⟩

theorem WellFormed.evolve (h : WellFormed c) (hn : c.getNetworkLocked k = some n)
    (hevo : Evolves (fun _ => False) n n') : WellFormed (c.putNetwork k n') :=
  h.put hn hevo.toSameKind (fun hflag => hevo.default_eq.trans hflag) fun _ hf => hf.elim

section Operations

variable {σ : Type} (rc : RouteApi σ)

/-- A call keeps the controller well formed, whatever it returns. -/
def KeepsWellFormed (m : Call (NetworkController × σ)) : Prop :=
  Call.Keeps (fun st => WellFormed st.1) m

theorem createPhysicalNetwork_keeps (netId : Nat) (permission : Permission) :
    KeepsWellFormed (createPhysicalNetwork rc netId permission) := by
  rintro ⟨c, s⟩ h
  simp only [createPhysicalNetwork]
  split
  · exact h
  rename_i hrange
  split
  · exact h
  rename_i hval
  split
  · exact h
  have hfree := isValidNetworkLocked_eq_false.mp (Bool.eq_false_iff.mpr hval)
  have hevo := PhysicalNetwork.setPermission_evolves rc c.virtualNetIds permission
    (PhysicalNetwork.new netId) s (fun _ => False)
  refine h.enter hfree hevo.netId_eq ?_ ?_
  · rw [hevo.type_eq]
    simp only [physicalNetIdOk, Bool.not_eq_false, Bool.or_eq_true, Bool.and_eq_true,
      decide_eq_true_eq] at hrange
    exact hrange.symm
  · refine List.eq_nil_iff_forall_not_mem.mpr fun i hi => ?_
    rcases hevo.interfaces i hi with hold | hf
    · cases hold
    · exact hf

theorem createPhysicalOemNetwork_keeps (permission : Permission) :
    KeepsWellFormed (createPhysicalOemNetwork rc permission) := by
  rintro ⟨c, s⟩ h
  simp only [createPhysicalOemNetwork]
  split
  · exact h
  · exact createPhysicalNetwork_keeps rc _ permission (c, s) h

theorem modifyFallthroughLocked_controller (vpnNetId : Nat) (add : Bool) (c : NetworkController)
    (s : σ) : (modifyFallthroughLocked rc vpnNetId add (c, s)).2.1 = c := by
  simp only [modifyFallthroughLocked]
  split
  · rfl
  split
  · rfl
  · rfl
  · rfl

theorem createVirtualNetwork_keeps (netId : Nat) (secure : Bool) :
    KeepsWellFormed (createVirtualNetwork rc netId secure) := by
  rintro ⟨c, s⟩ h
  simp only [createVirtualNetwork]
  split
  · exact h
  rename_i hrange
  split
  · exact h
  rename_i hval
  have hfree := isValidNetworkLocked_eq_false.mp (Bool.eq_false_iff.mpr hval)
  have hsame := modifyFallthroughLocked_controller rc netId true c s
  refine andThen_elim (P := fun r : Int × NetworkController × σ => WellFormed r.2.1)
    (fun _ => ?_) (fun _ => ?_)
  · show WellFormed (putNetwork _ netId _)
    rw [hsame]
    exact h.enter hfree rfl (not_not.mp hrange) rfl
  · rwa [hsame]

/-! ### The default network -/

theorem PhysicalNetwork.removeAsDefault_failed (vpns : List Nat) (n : PhysicalNetwork) (s : σ)
    (h : (PhysicalNetwork.removeAsDefault rc vpns (n, s)).1 ≠ 0) :
    (PhysicalNetwork.removeAsDefault rc vpns (n, s)).2.1 = n := by
  simp only [PhysicalNetwork.removeAsDefault] at h ⊢
  split
  · rename_i hd
    rw [if_pos hd] at h
    revert h
    exact commit_elim (P := fun r : Int × PhysicalNetwork × σ => r.1 ≠ 0 → r.2.1 = n)
      (fun _ h => absurd rfl h) (fun _ _ => rfl)
  · rfl

theorem installDefault_keeps (netId : Nat) : KeepsWellFormed (installDefault rc netId) := by
  rintro ⟨c, s⟩ h
  have hadd := fun p => PhysicalNetwork.addAsDefault_sameKind rc c.virtualNetIds p s fun _ => False
  simp only [installDefault]
  split
  · split
    · exact h
    · next p hp => exact h.put hp (hadd p).1 (hadd p).2 fun _ hf => hf.elim
    · exact h
  · exact h

theorem installDefault_mDefaultNetId (netId : Nat) (c : NetworkController) (s : σ) :
    (installDefault rc netId (c, s)).2.1.mDefaultNetId = c.mDefaultNetId := by
  simp only [installDefault]
  split
  · split
    · rfl
    · rfl
    · rfl
  · rfl

/-- After the first half of `setDefaultNetwork`, the new network has its flag. -/
theorem installDefault_installed (netId : Nat) (c : NetworkController) (s : σ)
    (h : (installDefault rc netId (c, s)).1 = 0) :
    netId = netIdUnset ∨
      ∃ p, (installDefault rc netId (c, s)).2.1.getNetworkLocked netId = some (.physical p) ∧
        p.mIsDefault = true := by
  simp only [installDefault] at h ⊢
  split
  · rename_i hne
    rw [if_pos hne] at h
    refine .inr ?_
    split
    · next hnone => rw [hnone] at h; cases h
    · rename_i p hp
      rw [hp] at h
      refine ⟨_, ?_, PhysicalNetwork.addAsDefault_isDefault rc c.virtualNetIds p s h⟩
      exact getNetworkLocked_put_self ..
    · rename_i n hn hother
      rw [hother] at h
      cases n with
      | physical p => exact (hn p rfl).elim
      | dummy _ | «local» _ | virtual _ => cases h
  · next heq => exact .inl (not_not.mp heq)

/-- The second half of `setDefaultNetwork` keeps the table and all networks but the old default, and
changes nothing when it fails. -/
theorem retireDefault_spec (c : NetworkController) (s : σ) (h : WellFormed c) :
    Shape (retireDefault rc (c, s)).2.1 ∧
      (∀ k, k ≠ c.mDefaultNetId →
        (retireDefault rc (c, s)).2.1.getNetworkLocked k = c.getNetworkLocked k) ∧
      ((retireDefault rc (c, s)).1 ≠ 0 → WellFormed (retireDefault rc (c, s)).2.1) := by
  simp only [retireDefault]
  split
  · split
    · rename_i p hp
      refine ⟨h.toShape.put_old hp (PhysicalNetwork.removeAsDefault_sameKind rc _ p s _), ?_, ?_⟩
      · intro k hk
        show (c.putNetwork c.mDefaultNetId _).getNetworkLocked k = _
        rw [getNetworkLocked_put, if_neg hk]
      · intro hfail
        show WellFormed (c.putNetwork c.mDefaultNetId (.physical _))
        rw [PhysicalNetwork.removeAsDefault_failed rc _ p s hfail]
        exact h.evolve hp (.refl _)
    · exact ⟨h.toShape, fun _ _ => rfl, fun _ => h⟩
  · exact ⟨h.toShape, fun _ _ => rfl, fun _ => h⟩

theorem setDefaultNetwork_keeps (netId : Nat) : KeepsWellFormed (setDefaultNetwork rc netId) := by
  rintro ⟨c, s⟩ h
  simp only [setDefaultNetwork]
  split
  · exact h
  rename_i hne
  have hwf := installDefault_keeps rc netId (c, s) h
  have hsame := installDefault_mDefaultNetId rc netId c s
  refine andThen_elim (P := fun r : Int × NetworkController × σ => WellFormed r.2.1)
    (fun hzero => ?_) (fun _ => hwf)
  have hnew := installDefault_installed rc netId c s hzero
  obtain ⟨hshape, hframe, hfail⟩ := retireDefault_spec rc _ _ hwf
  refine andThen_elim (P := fun r : Int × NetworkController × σ => WellFormed r.2.1)
    (fun _ => ?_) hfail
  refine ⟨hshape.of_networks rfl, ?_⟩
  rcases hnew with hunset | ⟨p, hp, hflag⟩
  · exact .inl hunset
  · exact .inr ⟨p, (hframe netId (hsame.symm ▸ hne)).trans hp, hflag⟩

/-! ### Destroying a network -/

variable {c : NetworkController} {netId : Nat} {network : Network} {st : NetworkController × σ}

theorem clearInterfaces_keeps (s : σ) (h : WellFormed c)
    (hn : c.getNetworkLocked netId = some network) :
    WellFormed (onNetwork id netId network
      (clearInterfaces rc c.virtualNetIds) (c, s)).2.1 :=
  h.evolve hn (clearInterfaces_evolves rc _ network s _)

/-- After `detach` the network is not the default, so it can be erased. -/
theorem detach_spec (netId : Nat) (c : NetworkController) (s : σ) (h : WellFormed c) :
    Shape (detach rc netId (c, s)).2.1 ∧
      ((detach rc netId (c, s)).2.1.mDefaultNetId = netIdUnset ∨
        ((detach rc netId (c, s)).2.1.mDefaultNetId ≠ netId ∧
          DefaultOk (detach rc netId (c, s)).2.1)) := by
  simp only [detach]
  split
  · split
    · rename_i p hp
      refine ⟨?_, .inl rfl⟩
      exact (h.toShape.put_old hp
        (PhysicalNetwork.removeAsDefault_sameKind rc _ p s _)).of_networks rfl
    · exact ⟨h.toShape.of_networks rfl, .inl rfl⟩
  · rename_i hne
    split
    · rw [modifyFallthroughLocked_controller]
      exact ⟨h.toShape, .inr ⟨hne, h.default_ok⟩⟩
    · exact ⟨h.toShape, .inr ⟨hne, h.default_ok⟩⟩

theorem destroyNetwork_keeps (netId : Nat) : KeepsWellFormed (destroyNetwork rc netId) := by
  rintro ⟨c, s⟩ h
  simp only [destroyNetwork]
  split
  · exact h
  rename_i hlocal
  split
  · exact h
  rename_i network hn
  have hcleared := clearInterfaces_keeps rc s h hn
  obtain ⟨hshape, hdefault⟩ := detach_spec rc netId _
    (onNetwork id netId network (clearInterfaces rc c.virtualNetIds) (c, s)).2.2
    hcleared
  refine ⟨hshape.erase hlocal, ?_⟩
  rcases hdefault with hunset | ⟨hne, hunset | ⟨p, hp, hflag⟩⟩
  · exact .inl hunset
  · exact .inl hunset
  refine .inr ⟨p, ?_, hflag⟩
  rw [getNetworkLocked_erase]
  exact (if_neg hne).trans hp

/-! ### Interfaces, users and permissions -/

/-- An interface that is in no other network can be added. -/
theorem WellFormed.addInterface {interface : String} (s : σ) (h : WellFormed c)
    (hn : c.getNetworkLocked netId = some network)
    (hfree : ¬ (c.getNetworkForInterfaceLocked interface ≠ netIdUnset ∧
      c.getNetworkForInterfaceLocked interface ≠ netId)) :
    WellFormed (c.putNetwork netId
      (addInterface rc c.virtualNetIds interface (network, s)).2.1) := by
  have hevo := addInterface_evolves rc c.virtualNetIds interface network s
  refine h.put hn hevo.toSameKind (fun hflag => hevo.default_eq.trans hflag) ?_
  intro i hi k2 n2 h2 hi2
  rw [h.toShape.getNetworkForInterface h2 (hi ▸ hi2)] at hfree
  by_contra hne
  exact hfree ⟨h.toShape.ne_unset h2, hne⟩

theorem addInterfaceToNetwork_keeps (netId : Nat) (interface : String) :
    KeepsWellFormed (addInterfaceToNetwork rc netId interface) := by
  rintro ⟨c, s⟩ h
  simp only [addInterfaceToNetwork]
  split
  · exact h
  rename_i network hn
  split
  · exact h
  rename_i hfree
  have hput := h.addInterface rc s hn hfree
  split
  · exact hput
  split
  · exact hput.of_networks rfl rfl
  · exact hput

theorem removeInterfaceFromNetwork_keeps (netId : Nat) (interface : String) :
    KeepsWellFormed (removeInterfaceFromNetwork rc netId interface) := by
  rintro ⟨c, s⟩ h
  simp only [removeInterfaceFromNetwork]
  split
  · exact h
  · rename_i network hn
    exact h.evolve hn (removeInterface_evolves rc _ interface network s _)

theorem setPermissionForNetworks_keeps (permission : Permission) (netIds : List Nat) :
    KeepsWellFormed (setPermissionForNetworks rc permission netIds) := by
  refine Call.Keeps.each (fun netId => ?_) netIds
  rintro ⟨c, s⟩ h
  dsimp only
  split
  · exact h
  · next p hp => exact h.evolve hp (PhysicalNetwork.setPermission_evolves rc _ permission p s _)
  · exact h

theorem addUsersToNetwork_keeps (netId : Nat) (uidRanges : UidRanges) :
    KeepsWellFormed (addUsersToNetwork rc netId uidRanges) := by
  rintro ⟨c, s⟩ h
  simp only [addUsersToNetwork]
  split
  · exact h
  · next v hv => exact h.evolve hv (VirtualNetwork.addUsers_evolves rc uidRanges v s _)
  · exact h

theorem removeUsersFromNetwork_keeps (netId : Nat) (uidRanges : UidRanges) :
    KeepsWellFormed (removeUsersFromNetwork rc netId uidRanges) := by
  rintro ⟨c, s⟩ h
  simp only [removeUsersFromNetwork]
  split
  · exact h
  · next v hv => exact h.evolve hv (VirtualNetwork.removeUsers_evolves rc uidRanges v s _)
  · exact h

theorem modifyRoute_controller (netId : Nat) (interface : String) (add legacy : Bool) (uid : Uid)
    (c : NetworkController) (s : σ) :
    (modifyRoute rc netId interface add legacy uid (c, s)).2.1 = c := by
  simp only [modifyRoute]
  split
  · rfl
  split
  · rfl
  split
  · rfl
  · rfl

theorem removeInterfaceAddressLocked_networks (c : NetworkController) (ifIndex : Nat)
    (address : String) :
    (c.removeInterfaceAddressLocked ifIndex address).2.mNetworks = c.mNetworks ∧
      (c.removeInterfaceAddressLocked ifIndex address).2.mDefaultNetId = c.mDefaultNetId := by
  simp only [removeInterfaceAddressLocked]
  split
  · exact ⟨rfl, rfl⟩
  split
  · split
    · exact ⟨rfl, rfl⟩
    split
    · exact ⟨rfl, rfl⟩
    · exact ⟨rfl, rfl⟩
  · exact ⟨rfl, rfl⟩

/-! ## Runs -/

theorem step_keeps (op : Op) : KeepsWellFormed (step rc op) := by
  cases op with
  | createPhysicalNetwork netId permission =>
    exact createPhysicalNetwork_keeps rc netId permission
  | createPhysicalOemNetwork permission => exact createPhysicalOemNetwork_keeps rc permission
  | createVirtualNetwork netId secure => exact createVirtualNetwork_keeps rc netId secure
  | destroyNetwork netId => exact destroyNetwork_keeps rc netId
  | addInterfaceToNetwork netId interface => exact addInterfaceToNetwork_keeps rc netId interface
  | removeInterfaceFromNetwork netId interface =>
    exact removeInterfaceFromNetwork_keeps rc netId interface
  | setDefaultNetwork netId => exact setDefaultNetwork_keeps rc netId
  | setPermissionForNetworks permission netIds =>
    exact setPermissionForNetworks_keeps rc permission netIds
  | addUsersToNetwork netId ranges => exact addUsersToNetwork_keeps rc netId _
  | removeUsersFromNetwork netId ranges => exact removeUsersFromNetwork_keeps rc netId _
  | modifyRoute netId interface add legacy uid =>
    rintro ⟨c, s⟩ h
    show WellFormed (modifyRoute rc netId interface add legacy uid (c, s)).2.1
    rw [modifyRoute_controller]
    exact h
  | removeInterfaceAddress ifIndex address =>
    rintro ⟨c, s⟩ h
    obtain ⟨hn, hd⟩ := c.removeInterfaceAddressLocked_networks ifIndex address
    exact h.of_networks hn hd
  | addInterfaceAddress ifIndex address =>
    rintro ⟨c, s⟩ h
    simp only [step, addInterfaceAddress]
    split
    · exact h
    · exact h.of_networks rfl rfl
  | setPermissionForUsers permission uids | allowProtect uids | denyProtect uids =>
    exact fun _ h => h.of_networks rfl rfl

theorem getNetworkLocked_new (hk : new.getNetworkLocked k = some n) :
    (k = dummyNetId ∧ n = .dummy (.new dummyNetId)) ∨
      (k = localNetId ∧ n = .local (.new localNetId)) := by
  simp only [new, getNetworkLocked, find?_insert] at hk
  split at hk
  · next heq => exact .inl ⟨heq, (some.inj hk).symm⟩
  split at hk
  · next heq => exact .inr ⟨heq, (some.inj hk).symm⟩
  · cases hk

theorem wellFormed_new : WellFormed new := by
  refine ⟨⟨fun k n hk => ?_, fun k n hk => ?_, ⟨.new localNetId, rfl⟩, ?_⟩, .inl rfl⟩
  · rcases getNetworkLocked_new hk with ⟨rfl, rfl⟩ | ⟨rfl, rfl⟩
    · rfl
    · rfl
  · rcases getNetworkLocked_new hk with ⟨rfl, rfl⟩ | ⟨rfl, rfl⟩
    · rfl
    · rfl
  · intro k1 n1 k2 n2 i h1 h2 hi1 hi2
    rcases getNetworkLocked_new h1 with ⟨rfl, rfl⟩ | ⟨rfl, rfl⟩
    · rcases getNetworkLocked_new h2 with ⟨rfl, rfl⟩ | ⟨rfl, rfl⟩
      · rfl
      · cases hi2
    · cases hi1

theorem reachable_wellFormed (h : Reachable rc st) : WellFormed st.1 := by
  induction h with
  | init s => exact wellFormed_new
  | step op _ ih => exact step_keeps rc op _ ih

/-- The controllers on which an operation started in `st` relies on a physical default network:
`setDefaultNetwork` between its halves, and `createVirtualNetwork` and `destroyNetwork` before the
fallthrough rules (the latter also before its downcast). -/
inductive DefaultLookup (st : NetworkController × σ) : NetworkController → Prop where
  | setDefaultNetwork (netId : Nat) (hne : netId ≠ st.1.mDefaultNetId)
      (hok : (installDefault rc netId st).1 = 0) : DefaultLookup st (installDefault rc netId st).2.1
  | createVirtualNetwork : DefaultLookup st st.1
  | destroyNetwork (netId : Nat) (network : Network)
      (hn : st.1.getNetworkLocked netId = some network) :
      DefaultLookup st (onNetwork id netId network
        (clearInterfaces rc st.1.virtualNetIds) st).2.1

theorem WellFormed.defaultLookup (h : WellFormed st.1) (hc : DefaultLookup rc st c) :
    WellFormed c := by
  cases hc with
  | setDefaultNetwork netId hne hok => exact installDefault_keeps rc netId st h
  | createVirtualNetwork => exact h
  | destroyNetwork netId network hn => exact clearInterfaces_keeps rc st.2 h hn

/-- Under any failures of the routing layer, the controller keeps its tables right, and every lookup
of the default network finds a physical one with its flag. -/
theorem controller_wellFormed_under_failures {st : NetworkController × σ} (h : Reachable rc st) :
    (∀ k₁ n₁ k₂ n₂ i, st.1.getNetworkLocked k₁ = some n₁ → st.1.getNetworkLocked k₂ = some n₂ →
        i ∈ n₁.getInterfaces.keys → i ∈ n₂.getInterfaces.keys → k₁ = k₂) ∧
      (∀ k n, st.1.getNetworkLocked k = some n → n.getNetId = k ∧
        (n.getType = .physical → (1 ≤ k ∧ k ≤ 50) ∨ (100 ≤ k ∧ k ≤ 65535)) ∧
        (n.getType = .virtual → 100 ≤ k ∧ k ≤ 65535)) ∧
      st.1.isValidNetworkLocked localNetId = true ∧
      (st.1.mDefaultNetId = netIdUnset ∨
        ∃ p, st.1.getNetworkLocked st.1.mDefaultNetId = some (.physical p) ∧ p.mIsDefault = true) ∧
      ∀ c, DefaultLookup rc st c → c.mDefaultNetId ≠ netIdUnset →
        ∃ p, c.getNetworkLocked c.mDefaultNetId = some (.physical p) := by
  have hwf := reachable_wellFormed rc h
  refine ⟨hwf.one_network, fun k n hn => ⟨hwf.netId_eq k n hn, fun ht => ?_, fun ht => ?_⟩, ?_,
    hwf.default_ok, fun c hc hset => ?_⟩
  · have hrange := hwf.in_range k n hn
    rwa [ht] at hrange
  · have hrange := hwf.in_range k n hn
    rwa [ht] at hrange
  · obtain ⟨l, hl⟩ := hwf.has_local
    rw [isValidNetworkLocked, hl]
    rfl
  · rcases (hwf.defaultLookup rc hc).default_ok with hunset | ⟨p, hp, _⟩
    · exact absurd hunset hset
    · exact ⟨p, hp⟩

end Operations

/-- A routing layer whose calls return the codes of a script, then succeed. -/
def scripted : RouteApi (List Int) :=
  let next : Call (List Int) := fun codes => (codes.headD 0, codes.tail)
  { getIfIndex := fun _ _ => 0
    addInterfaceToLocalNetwork := fun _ _ => next
    removeInterfaceFromLocalNetwork := fun _ _ => next
    addInterfaceToPhysicalNetwork := fun _ _ _ => next
    removeInterfaceFromPhysicalNetwork := fun _ _ _ => next
    addInterfaceToVirtualNetwork := fun _ _ _ _ => next
    removeInterfaceFromVirtualNetwork := fun _ _ _ _ => next
    modifyPhysicalNetworkPermission := fun _ _ _ _ => next
    addUsersToVirtualNetwork := fun _ _ _ _ => next
    removeUsersFromVirtualNetwork := fun _ _ _ _ => next
    addInterfaceToDefaultNetwork := fun _ _ => next
    removeInterfaceFromDefaultNetwork := fun _ _ => next
    addVirtualNetworkFallthrough := fun _ _ _ => next
    removeVirtualNetworkFallthrough := fun _ _ _ => next
    modifyRoute := fun _ _ _ => next }

/-- Network 100 gets an interface and becomes default, and the switch to 101 fails in the kernel
while 100 is retired. -/
def failedSwitch : NetworkController × List Int :=
  let run := fun st op => (step scripted op st).2
  [.createPhysicalNetwork 100 .none, .createPhysicalNetwork 101 .none,
    .addInterfaceToNetwork 100 "wlan0", .setDefaultNetwork 100, .setDefaultNetwork 101].foldl run
    (new, [0, 0, -Errno.eexist])

theorem controller_wellFormed_failedSwitch :
    (failedSwitch.1.mDefaultNetId = 100 ∧ failedSwitch.2 = []) ∧
      ∃ p, failedSwitch.1.getNetworkLocked failedSwitch.1.mDefaultNetId = some (.physical p) := by
  have hreach : Reachable scripted failedSwitch :=
    .step _ (.step _ (.step _ (.step _ (.step _ (.init _)))))
  have hid : failedSwitch.1.mDefaultNetId = 100 := by decide
  refine ⟨⟨hid, by decide⟩, ?_⟩
  obtain ⟨_, _, _, _, hlook⟩ := controller_wellFormed_under_failures scripted hreach
  exact hlook _ .createVirtualNetwork (by rw [hid]; decide)

end NetworkController

end Netd
