import Netd.Server.FwmarkServer

/-!
# Downcasts of networks

`NetworkController` casts its networks with `static_cast` where it needs a method of a subclass.
For each function with such a cast, its *casts* are listed here, each with the class it names and
the object it is applied to. Most follow a test of `getType`. `destroyNetwork` casts the network
whose netId is `mDefaultNetId`, which is physical in every reachable state.
-/

namespace Netd

open List FwmarkServer

/-- A `static_cast` of a network pointer: the class it names and the object. -/
structure Cast where
  target : NetworkType
  object : Network

/-- The object has exactly the class that is named. -/
def Cast.Exact (cast : Cast) : Prop := cast.object.getType = cast.target

instance Cast.Exact.decidable (cast : Cast) : Decidable cast.Exact :=
  inferInstanceAs (Decidable (_ = _))

namespace NetworkController

/-- The cast after `if (!network || network->getType() != target) return ...;` -/
def checkedCast (target : NetworkType) : Option Network → List Cast
  | none => []
  | some network => if network.getType ≠ target then [] else [⟨target, network⟩]

variable {c : NetworkController} {uid : Uid} {netId : Nat} {cast : Cast} {network : Network}

theorem checkedCast_exact {target : NetworkType} {network : Option Network}
    (h : cast ∈ checkedCast target network) : cast.Exact := by
  cases network with
  | none => cases h
  | some network =>
    simp only [checkedCast] at h
    split at h
    · cases h
    rename_i htype
    cases mem_singleton.mp h
    exact not_not.mp htype

/-! ## Queries -/

def castAppliesToUser (uid : Uid) : Network → Bool
  | .virtual v => v.appliesToUser uid
  | _ => false

/-- The casts of `getVirtualNetworkForUserLocked`, up to the first network of the user. -/
def getVirtualNetworkForUserCasts (uid : Uid) : List (Nat × Network) → List Cast
  | [] => []
  | (_, network) :: rest =>
    if network.getType = .virtual then
      ⟨.virtual, network⟩ ::
        if castAppliesToUser uid network then [] else getVirtualNetworkForUserCasts uid rest
    else getVirtualNetworkForUserCasts uid rest

theorem getVirtualNetworkForUserCasts_exact {entries : List (Nat × Network)}
    (h : cast ∈ getVirtualNetworkForUserCasts uid entries) : cast.Exact := by
  induction entries with
  | nil => cases h
  | cons e rest ih =>
    simp only [getVirtualNetworkForUserCasts] at h
    split at h
    · rename_i htype
      cases mem_cons.mp h with
      | inl heq => exact heq ▸ htype
      | inr hrest =>
        split at hrest
        · cases hrest
        · exact ih hrest
    · exact ih h

def checkUserNetworkAccessCasts (c : NetworkController) (uid : Uid) (netId : Nat) : List Cast :=
  match c.getNetworkLocked netId with
  | none => []
  | some network =>
    if uid = invalidUid then []
    else if holdsAll (c.getPermissionForUserLocked uid).bits Permission.system.bits then []
    else if network.getType = .virtual then [⟨.virtual, network⟩]
    else
      getVirtualNetworkForUserCasts uid c.mNetworks.entries ++
        if (c.getVirtualNetworkForUserLocked uid).any (fun v => v.mSecure) ∧
            c.mProtectableUsers.contains uid = false then []
        else [⟨.physical, network⟩]

/-- The user gets as far as the network's permission: it is known, without the system permission,
and in no secure VPN that it cannot leave. -/
structure NeedsPermission (c : NetworkController) (uid : Uid) : Prop where
  known : uid ≠ invalidUid
  not_system : holdsAll (c.getPermissionForUserLocked uid).bits Permission.system.bits = false
  not_locked_in : ¬ ((c.getVirtualNetworkForUserLocked uid).any (fun v => v.mSecure) ∧
    c.mProtectableUsers.contains uid = false)

/-- The netId of the local network, or of the dummy network while it is there. -/
def BuiltIn (c : NetworkController) (netId : Nat) : Prop :=
  netId = localNetId ∨ (netId = dummyNetId ∧ c.isValidNetworkLocked netId = true)

theorem Shape.builtIn_iff (h : Shape c) (hn : c.getNetworkLocked netId = some network) :
    BuiltIn c netId ↔ network.getType ≠ .virtual ∧ network.getType ≠ .physical := by
  have hrange := h.in_range netId network hn
  have hval : c.isValidNetworkLocked netId = true := by rw [isValidNetworkLocked, hn]; rfl
  simp only [BuiltIn, hval, and_true]
  cases htype : network.getType with
  | dummy =>
    rw [htype] at hrange
    exact iff_of_true (.inr hrange) ⟨by decide, by decide⟩
  | «local» =>
    rw [htype] at hrange
    exact iff_of_true (.inl hrange) ⟨by decide, by decide⟩
  | physical =>
    rw [htype] at hrange
    refine iff_of_false ?_ fun hother => hother.2 rfl
    simp only [netIdInRange] at hrange
    simp only [localNetId, dummyNetId]
    omega
  | virtual =>
    rw [htype] at hrange
    refine iff_of_false ?_ fun hother => hother.1 rfl
    simp only [netIdInRange] at hrange
    simp only [localNetId, dummyNetId]
    omega

/-- A user that needs the permission makes the function cast a network that is not
virtual. -/
theorem NeedsPermission.cast_mem (h : NeedsPermission c uid)
    (hn : c.getNetworkLocked netId = some network) (hvirtual : network.getType ≠ .virtual) :
    ⟨.physical, network⟩ ∈ checkUserNetworkAccessCasts c uid netId := by
  simp only [checkUserNetworkAccessCasts, hn]
  rw [if_neg h.known, if_neg (Bool.eq_false_iff.mp h.not_system), if_neg hvirtual,
    if_neg h.not_locked_in]
  exact mem_append_right _ (mem_singleton_self _)

/-- Every other cast is exact. -/
theorem exact_or_needsPermission (h : cast ∈ checkUserNetworkAccessCasts c uid netId) :
    cast.Exact ∨ (c.getNetworkLocked netId = some cast.object ∧ cast.target = .physical ∧
      cast.object.getType ≠ .virtual ∧ NeedsPermission c uid) := by
  simp only [checkUserNetworkAccessCasts] at h
  split at h
  · cases h
  rename_i network hn
  split at h
  · cases h
  rename_i hknown
  split at h
  · cases h
  rename_i hsys
  split at h
  · rename_i hvirtual
    cases mem_singleton.mp h
    exact .inl hvirtual
  rename_i hvirtual
  rcases mem_append.mp h with hwalk | hlast
  · exact .inl (getVirtualNetworkForUserCasts_exact hwalk)
  split at hlast
  · cases hlast
  rename_i hlock
  cases mem_singleton.mp hlast
  exact .inr ⟨hn, rfl, hvirtual, hknown, Bool.eq_false_iff.mpr hsys, hlock⟩

theorem Shape.exists_builtIn (h : Shape c) (hb : BuiltIn c netId) :
    ∃ network, c.getNetworkLocked netId = some network := by
  rcases hb with rfl | ⟨_, hval⟩
  · obtain ⟨l, hl⟩ := h.has_local
    exact ⟨_, hl⟩
  · exact Option.isSome_iff_exists.mp hval

/-- The casts are exact unless the permission is compared with that of a built-in network, which has
none. -/
theorem checkUserNetworkAccessCasts_exact_iff (h : Shape c) (uid : Uid) (netId : Nat) :
    (∀ cast ∈ checkUserNetworkAccessCasts c uid netId, cast.Exact) ↔
      ¬ (BuiltIn c netId ∧ NeedsPermission c uid) := by
  constructor
  · rintro hall ⟨hbuiltIn, hneeds⟩
    obtain ⟨network, hn⟩ := h.exists_builtIn hbuiltIn
    obtain ⟨hvirtual, hphysical⟩ := (h.builtIn_iff hn).mp hbuiltIn
    exact hphysical (hall _ (hneeds.cast_mem hn hvirtual))
  · intro hgood cast hc
    rcases exact_or_needsPermission hc with hexact | ⟨hn, htarget, hvirtual, hneeds⟩
    · exact hexact
    by_contra hnot
    rw [Cast.Exact, htarget] at hnot
    exact hgood ⟨(h.builtIn_iff hn).mpr ⟨hvirtual, hnot⟩, hneeds⟩

/-- A user that does not get as far as the permission does not read it. -/
theorem checkUserNetworkAccessLocked_early (h : ¬ NeedsPermission c uid) (netId : Nat)
    (stray stray' : Nat → BitVec 32) :
    c.checkUserNetworkAccessLocked stray uid netId =
      c.checkUserNetworkAccessLocked stray' uid netId := by
  simp only [checkUserNetworkAccessLocked]
  split
  · rfl
  split
  · rfl
  rename_i hknown
  split
  · rfl
  rename_i hsys
  have hlock : (c.getVirtualNetworkForUserLocked uid).any (fun v => v.mSecure) ∧
      c.mProtectableUsers.contains uid = false := by
    by_contra hlock
    exact h ⟨hknown, Bool.eq_false_iff.mpr hsys, hlock⟩
  rw [if_pos hlock, if_pos hlock]

/-- With exact casts the answer does not depend on what lies past an object. -/
theorem checkUserNetworkAccessLocked_stray
    (h : ∀ cast ∈ checkUserNetworkAccessCasts c uid netId, cast.Exact)
    (stray stray' : Nat → BitVec 32) :
    c.checkUserNetworkAccessLocked stray uid netId =
      c.checkUserNetworkAccessLocked stray' uid netId := by
  by_cases hneeds : NeedsPermission c uid
  · simp only [checkUserNetworkAccessLocked]
    cases hn : c.getNetworkLocked netId with
    | none => rfl
    | some network =>
      cases network with
      | physical p | virtual v => rfl
      | dummy n | «local» n => cases h _ (hneeds.cast_mem hn fun hv => by cases hv)
  · exact checkUserNetworkAccessLocked_early hneeds netId stray stray'

section Operations

variable {σ : Type} (rc : RouteApi σ)

/-! ## Operations -/

def modifyFallthroughCasts (c : NetworkController) : List Cast :=
  if c.mDefaultNetId = netIdUnset then []
  else checkedCast .physical (c.getNetworkLocked c.mDefaultNetId)

variable {cast : Cast} {st : NetworkController × σ}

theorem modifyFallthroughCasts_exact {c : NetworkController} (h : cast ∈ modifyFallthroughCasts c) :
    cast.Exact := by
  simp only [modifyFallthroughCasts] at h
  split at h
  · cases h
  · exact checkedCast_exact h

/-- The casts of `setDefaultNetwork`: of the new network, and after it is
installed of the old one. -/
def setDefaultNetworkCasts (netId : Nat) (st : NetworkController × σ) : List Cast :=
  if netId = st.1.mDefaultNetId then []
  else
    let (ret, (c, _)) := installDefault rc netId st
    (if netId ≠ netIdUnset then checkedCast .physical (st.1.getNetworkLocked netId) else []) ++
      if ret ≠ 0 then []
      else if c.mDefaultNetId ≠ netIdUnset then
        checkedCast .physical (c.getNetworkLocked c.mDefaultNetId)
      else []

theorem setDefaultNetworkCasts_exact {netId : Nat} (h : cast ∈ setDefaultNetworkCasts rc netId st) :
    cast.Exact := by
  simp only [setDefaultNetworkCasts] at h
  split at h
  · cases h
  rcases mem_append.mp h with hnew | hold
  · split at hnew
    · exact checkedCast_exact hnew
    · cases hnew
  split at hold
  · cases hold
  split at hold
  · exact checkedCast_exact hold
  · cases hold

/-- The casts of `destroyNetwork`, made after the interfaces are cleared. -/
def destroyNetworkCasts (netId : Nat) (st : NetworkController × σ) : List Cast :=
  if netId = localNetId then []
  else
    match st.1.getNetworkLocked netId with
    | none => []
    | some network =>
      let network' := (Network.clearInterfaces rc st.1.virtualNetIds (network, st.2)).2.1
      let c := st.1.putNetwork netId network'
      -- no test of the type comes before this cast
      if c.mDefaultNetId = netId then [⟨.physical, network'⟩]
      else if network'.getType = .virtual then modifyFallthroughCasts c
      else []

theorem destroyNetworkCasts_exact {netId : Nat} (hwf : WellFormed st.1)
    (h : cast ∈ destroyNetworkCasts rc netId st) : cast.Exact := by
  simp only [destroyNetworkCasts] at h
  split at h
  · cases h
  split at h
  · cases h
  rename_i network hn
  have hevo := Network.clearInterfaces_evolves rc st.1.virtualNetIds network st.2 fun _ => False
  split at h
  · rename_i hdef
    cases mem_singleton.mp h
    have hkey : st.1.mDefaultNetId = netId := hdef
    rcases hwf.default_ok with hunset | ⟨p, hp, _⟩
    · exact absurd (hkey.symm.trans hunset) (hwf.ne_unset hn)
    rw [hkey, hn] at hp
    cases hp
    exact hevo.type_eq
  · split at h
    · exact modifyFallthroughCasts_exact h
    · cases h

/-- The casts of `setPermissionForNetworks`, which stops at the first error. -/
def setPermissionForNetworksCasts (permission : Permission) :
    List Nat → NetworkController × σ → List Cast
  | [], _ => []
  | netId :: rest, st =>
    let (ret, st') := setPermissionForNetworks rc permission [netId] st
    checkedCast .physical (st.1.getNetworkLocked netId) ++
      if ret ≠ 0 then [] else setPermissionForNetworksCasts permission rest st'

theorem setPermissionForNetworksCasts_exact {permission : Permission} {netIds : List Nat}
    (h : cast ∈ setPermissionForNetworksCasts rc permission netIds st) : cast.Exact := by
  induction netIds generalizing st with
  | nil => cases h
  | cons netId rest ih =>
    rcases mem_append.mp h with hfirst | hrest
    · exact checkedCast_exact hfirst
    split at hrest
    · cases hrest
    · exact ih hrest

def opCasts (st : NetworkController × σ) : Op → List Cast
  | .setDefaultNetwork netId => setDefaultNetworkCasts rc netId st
  | .createVirtualNetwork netId _ =>
    if ¬ (minNetId ≤ netId ∧ netId ≤ maxNetId) then []
    else if st.1.isValidNetworkLocked netId then []
    else modifyFallthroughCasts st.1
  | .destroyNetwork netId => destroyNetworkCasts rc netId st
  | .setPermissionForNetworks permission netIds =>
    setPermissionForNetworksCasts rc permission netIds st
  | .addUsersToNetwork netId _ => checkedCast .virtual (st.1.getNetworkLocked netId)
  | .removeUsersFromNetwork netId _ => checkedCast .virtual (st.1.getNetworkLocked netId)
  | _ => []

theorem opCasts_exact (hwf : WellFormed st.1) {op : Op} (h : cast ∈ opCasts rc st op) :
    cast.Exact := by
  unfold opCasts at h
  split at h
  · exact setDefaultNetworkCasts_exact rc h
  · split at h
    · cases h
    split at h
    · cases h
    · exact modifyFallthroughCasts_exact h
  · exact destroyNetworkCasts_exact rc hwf h
  · exact setPermissionForNetworksCasts_exact rc h
  · exact checkedCast_exact h
  · exact checkedCast_exact h
  · cases h

/-- In every reachable state, every cast of every operation and of the lookup of a user's VPN is
exact. -/
theorem downcasts_exact_iff {st : NetworkController × σ} (h : Reachable rc st) :
    (∀ op, ∀ cast ∈ opCasts rc st op, cast.Exact) ∧
      (∀ uid, ∀ cast ∈ getVirtualNetworkForUserCasts uid st.1.mNetworks.entries, cast.Exact) ∧
      ∀ uid netId,
        ((∀ cast ∈ checkUserNetworkAccessCasts st.1 uid netId, cast.Exact) ↔
          ¬ (BuiltIn st.1 netId ∧ NeedsPermission st.1 uid)) ∧
        (¬ (BuiltIn st.1 netId ∧ NeedsPermission st.1 uid) → ∀ stray stray',
          st.1.checkUserNetworkAccessLocked stray uid netId =
            st.1.checkUserNetworkAccessLocked stray' uid netId) := by
  have hwf := reachable_wellFormed rc h
  refine ⟨fun op cast hc => opCasts_exact rc hwf hc,
    fun uid cast hc => getVirtualNetworkForUserCasts_exact hc, fun uid netId => ?_⟩
  have hiff := checkUserNetworkAccessCasts_exact_iff hwf.toShape uid netId
  exact ⟨hiff, fun hgood => checkUserNetworkAccessLocked_stray (hiff.mpr hgood)⟩

end Operations

/-- The default network is destroyed, after a switch that failed: its cast is
exact. -/
theorem downcasts_exact_failedSwitch : opCasts scripted failedSwitch (.destroyNetwork 100) ≠ [] ∧
      ∀ cast ∈ opCasts scripted failedSwitch (.destroyNetwork 100), cast.Exact := by
  have hreach : Reachable scripted failedSwitch :=
    .step _ (.step _ (.step _ (.step _ (.step _ (.init _)))))
  refine ⟨?_, (downcasts_exact_iff scripted hreach).1 _⟩
  have hlen : (opCasts scripted failedSwitch (.destroyNetwork 100)).length = 1 := by decide
  exact ne_nil_of_length_eq_add_one hlen

/-- On a new controller, an app that selects the local network makes the server read past a
`LocalNetwork`, and what is there decides its answer. -/
theorem app_request_casts_local_network :
    (∃ cast ∈ checkUserNetworkAccessCasts new 10001 localNetId, ¬ cast.Exact) ∧
      let response := fun stray => (processClient stray new (fun _ _ => 0) 10001
        (delivered, ⟨.selectNetwork, 99, 0, 0⟩) {}).1
      response (fun _ => 0) = 0 ∧ response (fun _ => 1) = -Errno.eacces := by
  decide

end NetworkController

end Netd
