import Netd.Server.Network

/-!
# NetworkController

The controller owns the networks, the default network, the permissions of users and the interface
address maps. Its operations are calls on the controller and the routing layer below it
(`RouteApi`), each made under the write lock, so one operation is one step
(`NetworkController.step`). A run is any sequence of steps, failed ones included.
-/

namespace Netd

open Errno

/-- `MIN_NET_ID`: the netIds below it are reserved. -/
def minNetId : Nat := 100
def maxNetId : Nat := 65535
def minOemId : Nat := 1
def maxOemId : Nat := 50
/-- `DUMMY_NET_ID`, of a network that drops everything. -/
def dummyNetId : Nat := 51
/-- `LOCAL_NET_ID`, of the network for tethering. -/
def localNetId : Nat := 99

/-- The user ids from this one on are those of applications. -/
def firstApplicationUid : Uid := 10000#32

def aidVpn : Uid := 1016#32

/-- The networks by netId, the default one, and what users may do. -/
structure NetworkController where
  mDefaultNetId : Nat
  mNetworks : OrdMap Nat Network
  mUsers : OrdMap Uid Permission
  mProtectableUsers : OrdSet Uid
  mIfindexToLastNetId : OrdMap Nat Nat
  mAddressToIfindices : OrdMap String (OrdSet Nat)

namespace NetworkController

/-- The constructor: the local network and the dummy network, and no default one. -/
def new : NetworkController where
  mDefaultNetId := netIdUnset
  mNetworks := (OrdMap.empty.insert localNetId (.local (.new localNetId))).insert dummyNetId
    (.dummy (.new dummyNetId))
  mUsers := .empty
  mProtectableUsers := OrdMap.empty.insert aidVpn ()
  mIfindexToLastNetId := .empty
  mAddressToIfindices := .empty

/-! ## Queries -/

def getNetworkLocked (c : NetworkController) (netId : Nat) : Option Network :=
  c.mNetworks.find? netId

def isValidNetworkLocked (c : NetworkController) (netId : Nat) : Bool :=
  (c.getNetworkLocked netId).isSome

def isVirtualNetworkLocked (c : NetworkController) (netId : Nat) : Bool :=
  (c.getNetworkLocked netId).any fun n => n.getType = .virtual

/-- The netIds of the virtual networks, in the order the delegate walks them. -/
def virtualNetIds (c : NetworkController) : List Nat :=
  (c.mNetworks.entries.filter fun e => e.2.getType = .virtual).map Prod.fst

/-- The first virtual network in netId order that applies to the user. -/
def getVirtualNetworkForUserLocked (c : NetworkController) (uid : Uid) : Option VirtualNetwork :=
  c.mNetworks.entries.findSome? fun e =>
    match e.2 with
    | .virtual v => if v.appliesToUser uid then some v else none
    | _ => none

/-- The permission that was set, or else that of the system for a user below the applications. -/
def getPermissionForUserLocked (c : NetworkController) (uid : Uid) : Permission :=
  match c.mUsers.find? uid with
  | some p => p
  | none => if uid < firstApplicationUid then .system else .none

/-- The user may exempt its sockets from VPNs. -/
def canProtectLocked (c : NetworkController) (uid : Uid) : Bool :=
  holdsAll (c.getPermissionForUserLocked uid).bits Permission.system.bits ||
    c.mProtectableUsers.contains uid

/-- The network a socket is given when it connects: a bypassable VPN of the user, or the default
network. -/
def getNetworkForConnectLocked (c : NetworkController) (uid : Uid) : Nat :=
  match c.getVirtualNetworkForUserLocked uid with
  | some v => if v.mSecure then c.mDefaultNetId else v.mNetId
  | none => c.mDefaultNetId

/-- A VPN of the user, secure or not, or else the default network. -/
def getNetworkForUser (c : NetworkController) (uid : Uid) : Nat :=
  match c.getVirtualNetworkForUserLocked uid with
  | some v => v.mNetId
  | none => c.mDefaultNetId

/-- The first network with the interface, or `NETID_UNSET`. -/
def getNetworkForInterfaceLocked (c : NetworkController) (interface : String) : Nat :=
  match c.mNetworks.entries.find? fun e => e.2.hasInterface interface with
  | some e => e.1
  | none => netIdUnset

/-- `static_cast<PhysicalNetwork*>(network)->getPermission()`. On another kind of network the read
goes past the object and finds what `stray` has there. -/
def downcastPermission (stray : Nat → BitVec 32) : Network → BitVec 32
  | .physical p => p.mPermission.bits.setWidth 32
  | n => stray n.getNetId

/-- Whether a user may select a network explicitly. For `stray` see `downcastPermission`. -/
def checkUserNetworkAccessLocked (stray : Nat → BitVec 32) (c : NetworkController) (uid : Uid)
    (netId : Nat) : Int :=
  match c.getNetworkLocked netId with
  | none => -enonet
  | some network =>
    if uid = invalidUid then -eremoteio
    else
      let userPermission := c.getPermissionForUserLocked uid
      if holdsAll userPermission.bits Permission.system.bits then 0
      else
        match network with
        | .virtual v => if v.appliesToUser uid then 0 else -eperm
        | _ =>
          if (c.getVirtualNetworkForUserLocked uid).any (fun v => v.mSecure) ∧
              c.mProtectableUsers.contains uid = false then -eperm
          else
            let networkPermission := downcastPermission stray network
            if userPermission.bits.setWidth 32 &&& networkPermission = networkPermission then 0
            else -eacces

/-! ## Operations -/

/-- Write a network back under its netId. -/
def putNetwork (c : NetworkController) (netId : Nat) (n : Network) : NetworkController :=
  { c with mNetworks := c.mNetworks.insert netId n }

section Operations

variable {σ : Type} (rc : RouteApi σ)

/-- Run a method of the network `n` that is bound to `netId`. -/
def onNetwork {ν : Type} (wrap : ν → Network) (netId : Nat) (n : ν) (m : Call (ν × σ)) :
    Call (NetworkController × σ) := fun (c, s) =>
  ((m (n, s)).1, (c.putNetwork netId (wrap (m (n, s)).2.1), (m (n, s)).2.2))

/-- The first half of `setDefaultNetwork`: the new network becomes default. -/
def installDefault (netId : Nat) : Call (NetworkController × σ) := fun (c, s) =>
  if netId ≠ netIdUnset then
    match c.getNetworkLocked netId with
    | none => (-enonet, (c, s))
    | some (.physical p) =>
      onNetwork .physical netId p (PhysicalNetwork.addAsDefault rc c.virtualNetIds) (c, s)
    | some _ => (-einval, (c, s))
  else (0, (c, s))

/-- The second half of `setDefaultNetwork`: the old network stops being default. -/
def retireDefault : Call (NetworkController × σ) := fun (c, s) =>
  if c.mDefaultNetId ≠ netIdUnset then
    match c.getNetworkLocked c.mDefaultNetId with
    | some (.physical p) =>
      onNetwork .physical c.mDefaultNetId p
        (PhysicalNetwork.removeAsDefault rc c.virtualNetIds) (c, s)
    | _ => (-esrch, (c, s))
  else (0, (c, s))

/-- Install the new default network and then retire the old one. The netId changes only if both
succeed. -/
def setDefaultNetwork (netId : Nat) : Call (NetworkController × σ) := fun (c, s) =>
  if netId = c.mDefaultNetId then (0, (c, s))
  else
    (installDefault rc netId).andThen ((retireDefault rc).andThen fun (c, s) =>
      (0, ({ c with mDefaultNetId := netId }, s))) (c, s)

/-- The fallthrough rules of a VPN for every interface of the default network. -/
def modifyFallthroughLocked (vpnNetId : Nat) (add : Bool) : Call (NetworkController × σ) :=
  fun (c, s) =>
    if c.mDefaultNetId = netIdUnset then (0, (c, s))
    else
      match c.getNetworkLocked c.mDefaultNetId with
      | none => (-esrch, (c, s))
      | some (.physical p) =>
        Call.onSnd (Call.each (fun interface =>
          if add then rc.addVirtualNetworkFallthrough vpnNetId interface p.mPermission
          else rc.removeVirtualNetworkFallthrough vpnNetId interface p.mPermission)
          p.mInterfaces.keys) (c, s)
      | some _ => (-einval, (c, s))

/-- The netIds a physical network may have. -/
def physicalNetIdOk (netId : Nat) : Bool :=
  (minNetId ≤ netId && netId ≤ maxNetId) || (minOemId ≤ netId && netId ≤ maxOemId)

def createPhysicalNetwork (netId : Nat) (permission : Permission) :
    Call (NetworkController × σ) := fun (c, s) =>
  if physicalNetIdOk netId = false then (-einval, (c, s))
  else if c.isValidNetworkLocked netId then (-eexist, (c, s))
  else
    let (ret, (n, s)) :=
      PhysicalNetwork.setPermission rc c.virtualNetIds permission (PhysicalNetwork.new netId, s)
    if ret ≠ 0 then (ret, (c, s)) else (0, (c.putNetwork netId (.physical n), s))

/-- The first free netId of those for manufacturers. -/
def freeOemId (c : NetworkController) : Option Nat :=
  (List.range' minOemId maxOemId).find? fun netId => !c.isValidNetworkLocked netId

def createPhysicalOemNetwork (permission : Permission) : Call (NetworkController × σ) :=
  fun (c, s) =>
    match c.freeOemId with
    | none => (-enonet, (c, s))
    | some netId => createPhysicalNetwork rc netId permission (c, s)

def createVirtualNetwork (netId : Nat) (secure : Bool) : Call (NetworkController × σ) :=
  fun (c, s) =>
    if ¬ (minNetId ≤ netId ∧ netId ≤ maxNetId) then (-einval, (c, s))
    else if c.isValidNetworkLocked netId then (-eexist, (c, s))
    else
      (modifyFallthroughLocked rc netId true).andThen (fun (c, s) =>
        (0, (c.putNetwork netId (.virtual (.new netId secure)), s))) (c, s)

/-- `destroyNetwork` after the interfaces are cleared: a default network stops being default, and a
virtual one loses its fallthrough rules. -/
def detach (netId : Nat) : Call (NetworkController × σ) := fun (c, s) =>
  if c.mDefaultNetId = netId then
    match c.getNetworkLocked netId with
    | some (.physical p) =>
      let (ret, (c, s)) :=
        onNetwork .physical netId p (PhysicalNetwork.removeAsDefault rc c.virtualNetIds) (c, s)
      (ret, ({ c with mDefaultNetId := netIdUnset }, s))
    | _ => (0, ({ c with mDefaultNetId := netIdUnset }, s))
  else if c.isVirtualNetworkLocked netId then modifyFallthroughLocked rc netId false (c, s)
  else (0, (c, s))

/-- The entry of a network is erased. -/
def eraseNetwork (c : NetworkController) (netId : Nat) : NetworkController :=
  { c with
    mNetworks := c.mNetworks.erase netId
    mIfindexToLastNetId := c.mIfindexToLastNetId.filter fun _ n => n ≠ netId }

/-- It goes on after errors and returns the first one. -/
def destroyNetwork (netId : Nat) : Call (NetworkController × σ) := fun (c, s) =>
  if netId = localNetId then (-einval, (c, s))
  else
    match c.getNetworkLocked netId with
    | none => (-enonet, (c, s))
    | some network =>
      let (ret, (c, s)) :=
        onNetwork id netId network (Network.clearInterfaces rc c.virtualNetIds) (c, s)
      let (err, (c, s)) := detach rc netId (c, s)
      (if ret ≠ 0 then ret else err, (c.eraseNetwork netId, s))

def addInterfaceToNetwork (netId : Nat) (interface : String) : Call (NetworkController × σ) :=
  fun (c, s) =>
    match c.getNetworkLocked netId with
    | none => (-enonet, (c, s))
    | some network =>
      let existingNetId := c.getNetworkForInterfaceLocked interface
      if existingNetId ≠ netIdUnset ∧ existingNetId ≠ netId then (-ebusy, (c, s))
      else
        let (ret, (c, s)) :=
          onNetwork id netId network (Network.addInterface rc c.virtualNetIds interface) (c, s)
        if ret ≠ 0 then (ret, (c, s))
        else
          let ifIndex := rc.getIfIndex interface s
          if ifIndex ≠ 0 then
            (0, ({ c with mIfindexToLastNetId := c.mIfindexToLastNetId.insert ifIndex netId }, s))
          else (0, (c, s))

def removeInterfaceFromNetwork (netId : Nat) (interface : String) :
    Call (NetworkController × σ) := fun (c, s) =>
  match c.getNetworkLocked netId with
  | none => (-enonet, (c, s))
  | some network =>
    onNetwork id netId network (Network.removeInterface rc c.virtualNetIds interface) (c, s)

/-- Remember the permission of the users, and forget them where it is none. -/
def setPermissionForUsers (permission : Permission) (uids : List Uid) :
    Call (NetworkController × σ) := fun (c, s) =>
  (0, ({ c with mUsers := uids.foldl (fun users uid => users.insert uid permission) c.mUsers }, s))

/-- Change the networks one after the other. It stops at the first one that fails. -/
def setPermissionForNetworks (permission : Permission) (netIds : List Nat) :
    Call (NetworkController × σ) :=
  Call.each (fun netId => fun (c, s) =>
    match c.getNetworkLocked netId with
    | none => (-enonet, (c, s))
    | some (.physical p) =>
      onNetwork .physical netId p
        (PhysicalNetwork.setPermission rc c.virtualNetIds permission) (c, s)
    | some _ => (-einval, (c, s))) netIds

def addUsersToNetwork (netId : Nat) (uidRanges : UidRanges) : Call (NetworkController × σ) :=
  fun (c, s) =>
    match c.getNetworkLocked netId with
    | none => (-enonet, (c, s))
    | some (.virtual v) => onNetwork .virtual netId v (VirtualNetwork.addUsers rc uidRanges) (c, s)
    | some _ => (-einval, (c, s))

def removeUsersFromNetwork (netId : Nat) (uidRanges : UidRanges) :
    Call (NetworkController × σ) := fun (c, s) =>
  match c.getNetworkLocked netId with
  | none => (-enonet, (c, s))
  | some (.virtual v) => onNetwork .virtual netId v (VirtualNetwork.removeUsers rc uidRanges) (c, s)
  | some _ => (-einval, (c, s))

/-- Legacy routes go to a table by the permission of the user, those of the local network to its
table, and all others to the table of their interface. -/
def modifyRoute (netId : Nat) (interface : String) (add legacy : Bool) (uid : Uid) :
    Call (NetworkController × σ) := fun (c, s) =>
  if c.isValidNetworkLocked netId = false then (-enonet, (c, s))
  else
    let existingNetId := c.getNetworkForInterfaceLocked interface
    if existingNetId = netIdUnset then (-enodev, (c, s))
    else if existingNetId ≠ netId then (-enoent, (c, s))
    else
      let tableType : RouteController.TableType :=
        if netId = localNetId then .localNetwork
        else if legacy then
          if holdsAll (c.getPermissionForUserLocked uid).bits Permission.system.bits then
            .legacySystem
          else .legacyNetwork
        else .interface
      Call.onSnd (rc.modifyRoute add interface tableType) (c, s)

def addInterfaceAddress (ifIndex : Nat) (address : String) : Call (NetworkController × σ) :=
  fun (c, s) =>
    if ifIndex = 0 then (0, (c, s))
    else
      let ifindices := (c.mAddressToIfindices.find? address).getD .empty
      (0, ({ c with mAddressToIfindices :=
              c.mAddressToIfindices.insert address (ifindices.insert ifIndex ()) }, s))

/-- The loop of `removeInterfaceAddress` over the interfaces that still have the address, with
whether a handover was found, and the map. `operator[]` adds a missing interface with netId zero.
-/
def handoverLoop (isVirtual : Nat → Bool) (lastNetId : Nat) :
    List Nat → OrdMap Nat Nat → Bool × OrdMap Nat Nat
  | [], m => (false, m)
  | idx :: rest, m =>
    let activeNetId := (m.find? idx).getD 0
    let m := m.insert idx activeNetId
    if lastNetId = activeNetId ∧ isVirtual activeNetId then (true, m)
    else handoverLoop isVirtual lastNetId rest m

/-- `removeInterfaceAddress`: whether sockets on the address are to be destroyed,
and the controller. -/
def removeInterfaceAddressLocked (c : NetworkController) (ifindex : Nat) (address : String) :
    Bool × NetworkController :=
  match c.mAddressToIfindices.find? address with
  | none => (true, c)
  | some ifindices =>
    if ifindices.contains ifindex then
      let ifindices := ifindices.erase ifindex
      if ifindices.keys = [] then
        (true, { c with mAddressToIfindices := c.mAddressToIfindices.erase address })
      else
        let c := { c with mAddressToIfindices := c.mAddressToIfindices.insert address ifindices }
        match c.mIfindexToLastNetId.find? ifindex with
        | none => (true, c)
        | some lastNetId =>
          let (handover, m) :=
            handoverLoop c.isVirtualNetworkLocked lastNetId ifindices.keys c.mIfindexToLastNetId
          (!handover, { c with mIfindexToLastNetId := m })
    else (true, c)

/-- These users may exempt their sockets from VPNs. -/
def allowProtect (uids : List Uid) : Call (NetworkController × σ) := fun (c, s) =>
  (0, ({ c with mProtectableUsers :=
          uids.foldl (fun users uid => users.insert uid ()) c.mProtectableUsers }, s))

def denyProtect (uids : List Uid) : Call (NetworkController × σ) := fun (c, s) =>
  (0, ({ c with mProtectableUsers :=
          uids.foldl (fun users uid => users.erase uid) c.mProtectableUsers }, s))

/-! ## Runs -/

/-- The public operations that change the controller or the routing layer. -/
inductive Op where
  | createPhysicalNetwork (netId : Nat) (permission : Permission)
  | createPhysicalOemNetwork (permission : Permission)
  | createVirtualNetwork (netId : Nat) (secure : Bool)
  | destroyNetwork (netId : Nat)
  | addInterfaceToNetwork (netId : Nat) (interface : String)
  | removeInterfaceFromNetwork (netId : Nat) (interface : String)
  | setDefaultNetwork (netId : Nat)
  | setPermissionForUsers (permission : Permission) (uids : List Uid)
  | setPermissionForNetworks (permission : Permission) (netIds : List Nat)
  | addUsersToNetwork (netId : Nat) (uidRanges : List UidRangeParcel)
  | removeUsersFromNetwork (netId : Nat) (uidRanges : List UidRangeParcel)
  | modifyRoute (netId : Nat) (interface : String) (add legacy : Bool) (uid : Uid)
  | addInterfaceAddress (ifIndex : Nat) (address : String)
  | removeInterfaceAddress (ifIndex : Nat) (address : String)
  | allowProtect (uids : List Uid)
  | denyProtect (uids : List Uid)

/-- Run one operation. Uid ranges arrive as lists, from which the callers build
`UidRanges`. -/
def step : Op → Call (NetworkController × σ)
  | .createPhysicalNetwork netId permission => createPhysicalNetwork rc netId permission
  | .createPhysicalOemNetwork permission => createPhysicalOemNetwork rc permission
  | .createVirtualNetwork netId secure => createVirtualNetwork rc netId secure
  | .destroyNetwork netId => destroyNetwork rc netId
  | .addInterfaceToNetwork netId interface => addInterfaceToNetwork rc netId interface
  | .removeInterfaceFromNetwork netId interface => removeInterfaceFromNetwork rc netId interface
  | .setDefaultNetwork netId => setDefaultNetwork rc netId
  | .setPermissionForUsers permission uids => setPermissionForUsers permission uids
  | .setPermissionForNetworks permission netIds => setPermissionForNetworks rc permission netIds
  | .addUsersToNetwork netId ranges => addUsersToNetwork rc netId (.ofRanges ranges)
  | .removeUsersFromNetwork netId ranges => removeUsersFromNetwork rc netId (.ofRanges ranges)
  | .modifyRoute netId interface add legacy uid => modifyRoute rc netId interface add legacy uid
  | .addInterfaceAddress ifIndex address => addInterfaceAddress ifIndex address
  | .removeInterfaceAddress ifIndex address =>
    fun (c, s) => (0, ((c.removeInterfaceAddressLocked ifIndex address).2, s))
  | .allowProtect uids => allowProtect uids
  | .denyProtect uids => denyProtect uids

/-- The states a run can reach from a fresh controller, whatever the operations
return. -/
inductive Reachable : NetworkController × σ → Prop where
  | init (s : σ) : Reachable (new, s)
  | step {st : NetworkController × σ} (op : Op) : Reachable st → Reachable (step rc op st).2

end Operations

end NetworkController

end Netd
