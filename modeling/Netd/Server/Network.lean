import Netd.Server.RouteController

/-!
# Networks

The classes `PhysicalNetwork`, `VirtualNetwork`, `LocalNetwork` and `DummyNetwork` and their
methods. A method is a call on the object and the state of the routing layer below it. The routing
layer is a parameter, `RouteApi`: what is proved for every `RouteApi` holds under any pattern of
failures. `RouteController.api` is the layer of the program.

Every method writes its own fields last, after all calls succeeded, so a method that fails half way
leaves its object as it was.
-/

namespace Netd

open Call

/-- The functions of `RouteController` that networks and `NetworkController`
call. -/
structure RouteApi (σ : Type) where
  getIfIndex : String → σ → Nat
  addInterfaceToLocalNetwork : Nat → String → Call σ
  removeInterfaceFromLocalNetwork : Nat → String → Call σ
  addInterfaceToPhysicalNetwork : Nat → String → Permission → Call σ
  removeInterfaceFromPhysicalNetwork : Nat → String → Permission → Call σ
  addInterfaceToVirtualNetwork : Nat → String → Bool → UidRanges → Call σ
  removeInterfaceFromVirtualNetwork : Nat → String → Bool → UidRanges → Call σ
  modifyPhysicalNetworkPermission : Nat → String → Permission → Permission → Call σ
  addUsersToVirtualNetwork : Nat → String → Bool → UidRanges → Call σ
  removeUsersFromVirtualNetwork : Nat → String → Bool → UidRanges → Call σ
  addInterfaceToDefaultNetwork : String → Permission → Call σ
  removeInterfaceFromDefaultNetwork : String → Permission → Call σ
  addVirtualNetworkFallthrough : Nat → String → Permission → Call σ
  removeVirtualNetworkFallthrough : Nat → String → Permission → Call σ
  modifyRoute : Bool → String → RouteController.TableType → Call σ

/-- The routing layer of the program. -/
def RouteController.api : RouteApi Routing where
  getIfIndex := getIfIndex
  addInterfaceToLocalNetwork := addInterfaceToLocalNetwork
  removeInterfaceFromLocalNetwork := removeInterfaceFromLocalNetwork
  addInterfaceToPhysicalNetwork := addInterfaceToPhysicalNetwork
  removeInterfaceFromPhysicalNetwork := removeInterfaceFromPhysicalNetwork
  addInterfaceToVirtualNetwork := addInterfaceToVirtualNetwork
  removeInterfaceFromVirtualNetwork := removeInterfaceFromVirtualNetwork
  modifyPhysicalNetworkPermission := modifyPhysicalNetworkPermission
  addUsersToVirtualNetwork := addUsersToVirtualNetwork
  removeUsersFromVirtualNetwork := removeUsersFromVirtualNetwork
  addInterfaceToDefaultNetwork := addInterfaceToDefaultNetwork
  removeInterfaceFromDefaultNetwork := removeInterfaceFromDefaultNetwork
  addVirtualNetworkFallthrough := addVirtualNetworkFallthrough
  removeVirtualNetworkFallthrough := removeVirtualNetworkFallthrough
  modifyRoute := modifyRoute

/-! ## Objects -/

/-- The network of `dummy0`, where packets get lost. -/
structure DummyNetwork where
  mNetId : Nat
  mInterfaces : OrdSet String

/-- The network of tethered interfaces. -/
structure LocalNetwork where
  mNetId : Nat
  mInterfaces : OrdSet String

/-- A network with a permission, which may be the default one. -/
structure PhysicalNetwork where
  mNetId : Nat
  mInterfaces : OrdSet String
  mPermission : Permission
  mIsDefault : Bool

/-- A VPN and the users it applies to. -/
structure VirtualNetwork where
  mNetId : Nat
  mInterfaces : OrdSet String
  mSecure : Bool
  mUidRanges : UidRanges

/-- A network of one of the four classes. -/
inductive Network where
  | dummy (n : DummyNetwork)
  | «local» (n : LocalNetwork)
  | physical (n : PhysicalNetwork)
  | virtual (n : VirtualNetwork)

inductive NetworkType where
  | dummy
  | «local»
  | physical
  | virtual
  deriving DecidableEq

namespace Network

def getType : Network → NetworkType
  | .dummy _ => .dummy
  | .local _ => .local
  | .physical _ => .physical
  | .virtual _ => .virtual

def getNetId : Network → Nat
  | .dummy n => n.mNetId
  | .local n => n.mNetId
  | .physical n => n.mNetId
  | .virtual n => n.mNetId

def getInterfaces : Network → OrdSet String
  | .dummy n => n.mInterfaces
  | .local n => n.mInterfaces
  | .physical n => n.mInterfaces
  | .virtual n => n.mInterfaces

def hasInterface (n : Network) (interface : String) : Bool := n.getInterfaces.contains interface

end Network

/-- A dummy network owns its one interface from the start. -/
def DummyNetwork.new (netId : Nat) : DummyNetwork :=
  ⟨netId, OrdMap.empty.insert dummyInterfaceName ()⟩

def LocalNetwork.new (netId : Nat) : LocalNetwork := ⟨netId, .empty⟩

def PhysicalNetwork.new (netId : Nat) : PhysicalNetwork := ⟨netId, .empty, .none, false⟩

def VirtualNetwork.new (netId : Nat) (secure : Bool) : VirtualNetwork :=
  ⟨netId, .empty, secure, .empty⟩

/-- The user is in one of the ranges. -/
def VirtualNetwork.appliesToUser (n : VirtualNetwork) (uid : Uid) : Bool := n.mUidRanges.hasUid uid

section Methods

variable {σ : Type} (rc : RouteApi σ)

/-! ## Physical networks

The delegate of a physical network walks the virtual networks of the controller.
It only needs their netIds, in order: `vpns`. -/

/-- The fallthrough rules of all VPNs for one interface. -/
def addFallthrough (vpns : List Nat) (interface : String) (permission : Permission) : Call σ :=
  each (fun vpn => rc.addVirtualNetworkFallthrough vpn interface permission) vpns

def removeFallthrough (vpns : List Nat) (interface : String) (permission : Permission) : Call σ :=
  each (fun vpn => rc.removeVirtualNetworkFallthrough vpn interface permission) vpns

/-- The rules that an interface of the default network has in addition. -/
def addToDefault (vpns : List Nat) (interface : String) (permission : Permission) : Call σ :=
  (rc.addInterfaceToDefaultNetwork interface permission).andThen
    (addFallthrough rc vpns interface permission)

/-- Take the additional rules of a default network away from an interface. -/
def removeFromDefault (vpns : List Nat) (interface : String) (permission : Permission) : Call σ :=
  (rc.removeInterfaceFromDefaultNetwork interface permission).andThen
    (removeFallthrough rc vpns interface permission)

/-- A throw route is added and removed for each family, whatever comes of it. -/
def invalidateRouteCache (interface : String) : Call σ :=
  each (fun _ : Family =>
    (ignore (rc.modifyRoute true interface .interface)).andThen
      (ignore (rc.modifyRoute false interface .interface))) afFamilies

namespace PhysicalNetwork

/-- The calls `setPermission` makes on a network that has interfaces. -/
def changePermission (vpns : List Nat) (permission : Permission) (n : PhysicalNetwork) : Call σ :=
  (each (fun interface =>
      (rc.modifyPhysicalNetworkPermission n.mNetId interface n.mPermission permission).andThen
        (invalidateRouteCache rc interface)) n.mInterfaces.keys).andThen <|
    if n.mIsDefault then
      each (fun interface =>
        (addToDefault rc vpns interface permission).andThen
          (removeFromDefault rc vpns interface n.mPermission)) n.mInterfaces.keys
    else done

/-- On a default network the new default rules come before the old ones go. -/
def setPermission (vpns : List Nat) (permission : Permission) : Call (PhysicalNetwork × σ) :=
  fun (n, s) =>
    if permission = n.mPermission then (0, (n, s))
    else if n.mInterfaces.keys = [] then (0, ({ n with mPermission := permission }, s))
    else
      commit (n.changePermission rc vpns permission)
        (fun n => { n with mPermission := permission }) (n, s)

/-- Every interface gets the default rules. The flag is set at the end. -/
def addAsDefault (vpns : List Nat) : Call (PhysicalNetwork × σ) := fun (n, s) =>
  if n.mIsDefault then (0, (n, s))
  else
    commit
      (each (fun interface => addToDefault rc vpns interface n.mPermission) n.mInterfaces.keys)
      (fun n => { n with mIsDefault := true }) (n, s)

/-- Every interface loses the default rules. The flag is cleared at the end. -/
def removeAsDefault (vpns : List Nat) : Call (PhysicalNetwork × σ) := fun (n, s) =>
  if n.mIsDefault then
    commit
      (each (fun interface => removeFromDefault rc vpns interface n.mPermission)
        n.mInterfaces.keys)
      (fun n => { n with mIsDefault := false }) (n, s)
  else (0, (n, s))

def addInterface (vpns : List Nat) (interface : String) : Call (PhysicalNetwork × σ) :=
  fun (n, s) =>
    if n.mInterfaces.contains interface then (0, (n, s))
    else
      commit
        ((rc.addInterfaceToPhysicalNetwork n.mNetId interface n.mPermission).andThen <|
          if n.mIsDefault then addToDefault rc vpns interface n.mPermission else done)
        (fun n => { n with mInterfaces := n.mInterfaces.insert interface () }) (n, s)

def removeInterface (vpns : List Nat) (interface : String) : Call (PhysicalNetwork × σ) :=
  fun (n, s) =>
    if n.mInterfaces.contains interface then
      commit
        ((if n.mIsDefault then removeFromDefault rc vpns interface n.mPermission
          else done).andThen <|
          rc.removeInterfaceFromPhysicalNetwork n.mNetId interface n.mPermission)
        (fun n => { n with mInterfaces := n.mInterfaces.erase interface }) (n, s)
    else (0, (n, s))

end PhysicalNetwork

/-! ## Virtual networks -/

namespace VirtualNetwork

/-- Add the ranges on every interface, and remember them at the end. -/
def addUsers (uidRanges : UidRanges) : Call (VirtualNetwork × σ) := fun (n, s) =>
  commit
    (each (fun interface =>
      rc.addUsersToVirtualNetwork n.mNetId interface n.mSecure uidRanges) n.mInterfaces.keys)
    (fun n => { n with mUidRanges := n.mUidRanges.add uidRanges }) (n, s)

/-- Remove the ranges on every interface, and forget them at the end. -/
def removeUsers (uidRanges : UidRanges) : Call (VirtualNetwork × σ) := fun (n, s) =>
  commit
    (each (fun interface =>
      rc.removeUsersFromVirtualNetwork n.mNetId interface n.mSecure uidRanges) n.mInterfaces.keys)
    (fun n => { n with mUidRanges := n.mUidRanges.remove uidRanges }) (n, s)

def addInterface (interface : String) : Call (VirtualNetwork × σ) := fun (n, s) =>
  if n.mInterfaces.contains interface then (0, (n, s))
  else
    commit (rc.addInterfaceToVirtualNetwork n.mNetId interface n.mSecure n.mUidRanges)
      (fun n => { n with mInterfaces := n.mInterfaces.insert interface () }) (n, s)

def removeInterface (interface : String) : Call (VirtualNetwork × σ) := fun (n, s) =>
  if n.mInterfaces.contains interface then
    commit (rc.removeInterfaceFromVirtualNetwork n.mNetId interface n.mSecure n.mUidRanges)
      (fun n => { n with mInterfaces := n.mInterfaces.erase interface }) (n, s)
  else (0, (n, s))

end VirtualNetwork

/-! ## Local networks -/

namespace LocalNetwork

def addInterface (interface : String) : Call (LocalNetwork × σ) := fun (n, s) =>
  if n.mInterfaces.contains interface then (0, (n, s))
  else
    commit (rc.addInterfaceToLocalNetwork n.mNetId interface)
      (fun n => { n with mInterfaces := n.mInterfaces.insert interface () }) (n, s)

def removeInterface (interface : String) : Call (LocalNetwork × σ) := fun (n, s) =>
  if n.mInterfaces.contains interface then
    commit (rc.removeInterfaceFromLocalNetwork n.mNetId interface)
      (fun n => { n with mInterfaces := n.mInterfaces.erase interface }) (n, s)
  else (0, (n, s))

end LocalNetwork

/-! ## Dispatch -/

namespace Network

/-- Run a method of a subclass on a network. -/
def dispatch {ν : Type} (wrap : ν → Network) (m : Call (ν × σ)) (n : ν) (s : σ) :
    Int × (Network × σ) :=
  ((m (n, s)).1, (wrap (m (n, s)).2.1, (m (n, s)).2.2))

def addInterface (vpns : List Nat) (interface : String) : Call (Network × σ)
  | (.dummy n, s) => (-Errno.einval, (.dummy n, s))
  | (.local n, s) => dispatch .local (LocalNetwork.addInterface rc interface) n s
  | (.physical n, s) => dispatch .physical (PhysicalNetwork.addInterface rc vpns interface) n s
  | (.virtual n, s) => dispatch .virtual (VirtualNetwork.addInterface rc interface) n s

def removeInterface (vpns : List Nat) (interface : String) : Call (Network × σ)
  | (.dummy n, s) => (-Errno.einval, (.dummy n, s))
  | (.local n, s) => dispatch .local (LocalNetwork.removeInterface rc interface) n s
  | (.physical n, s) => dispatch .physical (PhysicalNetwork.removeInterface rc vpns interface) n s
  | (.virtual n, s) => dispatch .virtual (VirtualNetwork.removeInterface rc interface) n s

/-- The loop of `clearInterfaces`. A success removes the first interface, so their number is enough
fuel. -/
def clearInterfacesLoop (vpns : List Nat) : Nat → Call (Network × σ)
  | 0 => done
  | fuel + 1 => fun (n, s) =>
    match n.getInterfaces.keys with
    | [] => (0, (n, s))
    | interface :: _ =>
      (removeInterface rc vpns interface).andThen (clearInterfacesLoop vpns fuel) (n, s)

/-- Remove all interfaces, one after the other. -/
def clearInterfaces (vpns : List Nat) : Call (Network × σ) := fun (n, s) =>
  clearInterfacesLoop rc vpns n.getInterfaces.keys.length (n, s)

end Network

end Methods

end Netd
