import Mathlib.Data.String.Basic
import Netd.Kernel.FibRules
import Netd.Lib.Call
import Netd.Lib.OrdMap

/-!
# RouteController

The functions of `RouteController.cpp` that install and remove policy rules and the iptables rules
that mark incoming packets. The state `Routing` has the kernel's rules and mark rules of each
family, the interface numbers `if_nametoindex` reports, the static map `sInterfaceToTable`, and the
faults the next system calls run into.

Every system call consumes one fault. A request may be refused before the kernel acts, and its
acknowledgement may be lost after it acted. An exhausted list means no more faults.
-/

namespace Netd

open Call

/-! ## The routing state -/

/-- What can go wrong with a system call. The code returned is `-(errno + 1)`,
so it is never zero. -/
inductive Fault where
  | pass
  | refuse (errno : Nat)
  | loseAck (errno : Nat)
  deriving DecidableEq

/-- A rule of the chain `routectrl_mangle_INPUT`:
`-i interface -j MARK --set-mark mark/mask`. -/
structure MarkRule where
  interface : String
  mark : BitVec 32
  mask : BitVec 32
  deriving DecidableEq

/-- The state `RouteController` works on. -/
structure Routing where
  rules : Family → FibRules
  mangle : Family → List MarkRule
  /-- `if_nametoindex`: zero when there is no such interface. -/
  ifIndex : String → Nat
  sInterfaceToTable : OrdMap String Nat
  faults : List Fault

namespace Routing

/-- Make a system call with the given effect. -/
def syscall (effect : Call Routing) : Call Routing := fun w =>
  match w.faults with
  | [] => effect w
  | .pass :: fs => effect { w with faults := fs }
  | .refuse e :: fs => (Int.negSucc e, { w with faults := fs })
  | .loseAck e :: fs => (Int.negSucc e, (effect { w with faults := fs }).2)

/-- The rules of one family, replaced. -/
def setRules (w : Routing) (fam : Family) (l : FibRules) : Routing :=
  { w with rules := Function.update w.rules fam l }

/-- The mark rules of one family, replaced. -/
def setMangle (w : Routing) (fam : Family) (l : List MarkRule) : Routing :=
  { w with mangle := Function.update w.mangle fam l }

end Routing

/-- `RTM_NEWRULE` and `RTM_DELRULE` -/
inductive RuleVerb where
  | newRule
  | delRule
  deriving DecidableEq

/-- `add ? RTM_NEWRULE : RTM_DELRULE` -/
def RuleVerb.ofAdd (add : Bool) : RuleVerb := if add then .newRule else .delRule

/-! ## Constants -/

def rulePriorityVpnOverrideSystem : Nat := 10000
def rulePriorityVpnOverrideOif : Nat := 10500
def rulePriorityVpnOutputToLocal : Nat := 11000
def rulePrioritySecureVpn : Nat := 12000
def rulePriorityProhibitNonVpn : Nat := 12500
def rulePriorityExplicitNetwork : Nat := 13000
def rulePriorityOutputInterface : Nat := 14000
def rulePriorityLegacySystem : Nat := 15000
def rulePriorityLegacyNetwork : Nat := 16000
def rulePriorityLocalNetwork : Nat := 17000
def rulePriorityTethering : Nat := 18000
def rulePriorityImplicitNetwork : Nat := 19000
def rulePriorityBypassableVpn : Nat := 20000
def rulePriorityVpnFallthrough : Nat := 21000
def rulePriorityDefaultNetwork : Nat := 22000
def rulePriorityUnreachable : Nat := 32000

def routeTableLocalNetwork : Nat := 97
def routeTableLegacyNetwork : Nat := 98
def routeTableLegacySystem : Nat := 99

def routeTableOffsetFromIndex : Nat := 1000

def uidRoot : Uid := 0
def netIdUnset : Nat := 0
/-- `IIF_LOOPBACK`: the input interface of packets that are sent by this machine. -/
def iifLoopback : Option String := some "lo"

def dummyInterfaceName : String := "dummy0"

/-- The netId field of a mark: the low 16 bits of the number. -/
def netIdField (netId : Nat) : BitVec 16 := BitVec.ofNat 16 netId

namespace RouteController

/-! ## Interface tables -/

/-- An interface that went away keeps the table it had, until `flushRoutes`
forgets it. -/
def getRouteTableForInterface (interface : String) (w : Routing) : Nat × Routing :=
  let index := w.ifIndex interface
  if index ≠ 0 then
    (index + routeTableOffsetFromIndex,
      { w with sInterfaceToTable :=
          w.sInterfaceToTable.insert interface (index + routeTableOffsetFromIndex) })
  else ((w.sInterfaceToTable.find? interface).getD rtTableUnspec, w)

/-- `if_nametoindex`, which returns 0 for a name the kernel does not know. -/
def getIfIndex (interface : String) (w : Routing) : Nat :=
  match w.sInterfaceToTable.find? interface with
  | none => 0
  | some table => table - routeTableOffsetFromIndex

/-- Look up the table of an interface and go on with it, or return `-ESRCH`. -/
def withTable (interface : String) (k : Nat → Call Routing) : Call Routing := fun w =>
  let (table, w) := getRouteTableForInterface interface w
  if table = rtTableUnspec then (-Errno.esrch, w) else k table w

/-! ## Rule requests -/

/-- The code, the length with the terminating NUL, and the padding to the next
multiple of four. -/
def padInterfaceName : Option String → Int × Nat × Nat
  | none => (0, 0, 0)
  | some input =>
    let length := input.utf8ByteSize + 1
    if length > ifnamsiz then (-Errno.enametoolong, length, 0)
    else (0, length, (4 - (length + 4) % 4) % 4)

/-- One netlink message to the kernel, for one family. -/
def sendRuleRequest (verb : RuleVerb) (q : RuleRequest) (fam : Family) : Call Routing :=
  Routing.syscall fun w =>
    let (ret, l) :=
      match verb with
      | .newRule => (w.rules fam).newRule q
      | .delRule => (w.rules fam).delRule q
    (ret, w.setRules fam l)

/-- Send the request for both families. It stops at the first one that fails. -/
def modifyIpRule (verb : RuleVerb) (priority : Nat) (ruleType : RuleAction) (table : Nat)
    (fwmark mask : BitVec 32) (iif oif : Option String) (uidStart uidEnd : Uid) : Call Routing :=
  -- a bit set in the fwmark must not be ignored by the mask
  if fwmark &&& ~~~mask ≠ 0 then fail (-Errno.erange)
  else if (padInterfaceName iif).1 ≠ 0 then fail (padInterfaceName iif).1
  else if (padInterfaceName oif).1 ≠ 0 then fail (padInterfaceName oif).1
  -- both uids or neither
  else if (uidStart = invalidUid) ≠ (uidEnd = invalidUid) then fail (-Errno.eusers)
  else if table = rtTableUnspec ∧ ruleType = .toTbl ∧ verb ≠ .delRule then
    fail (-Errno.enotuniq)
  else
    each (sendRuleRequest verb
      { priority := priority
        action := ruleType
        table := if table ≠ rtTableUnspec then some table else none
        mark := if mask ≠ 0 then some (fwmark, mask) else none
        iif := iif
        oif := oif
        uidRange := if uidStart ≠ invalidUid then some ⟨uidStart, uidEnd⟩ else none })
      afFamilies

/-- `modifyIpRule` for a lookup rule on a mark alone. -/
def modifyMarkRule (verb : RuleVerb) (priority table : Nat) (fwmark mask : BitVec 32) :
    Call Routing :=
  modifyIpRule verb priority .toTbl table fwmark mask none none invalidUid invalidUid

/-! ## Mark rules -/

/-- `-A` or `-D` of a mark rule in one family. A deletion needs an equal rule. -/
def sendMarkCommand (add : Bool) (m : MarkRule) (fam : Family) : Call Routing :=
  Routing.syscall fun w =>
    if add then (0, w.setMangle fam (w.mangle fam ++ [m]))
    else if m ∈ w.mangle fam then (0, w.setMangle fam ((w.mangle fam).erase m))
    else (-1, w)

/-- Both families are told, and one failure is enough. -/
def modifyIncomingPacketMark (netId : Nat) (interface : String) (permission : Permission)
    (add : Bool) : Call Routing := fun w =>
  let fwmark : Fwmark :=
    { netId := netIdField netId
      explicitlySelected := true
      protectedFromVpn := true
      permission := permission.bits }
  let m : MarkRule := ⟨interface, fwmark.intValue, ~~~Fwmark.getUidBillingMask⟩
  let (ret4, w) := sendMarkCommand add m .inet w
  let (ret6, w) := sendMarkCommand add m .inet6 w
  (if ret4 = 0 ∧ ret6 = 0 then 0 else -Errno.eremoteio, w)

/-! ## The families of rules -/

/-- Packets that come in on a VPN may go to the local network. -/
def modifyVpnOutputToLocalRule (vpnInterface : String) (add : Bool) : Call Routing :=
  modifyIpRule (.ofAdd add) rulePriorityVpnOutputToLocal .toTbl routeTableLocalNetwork 0 0
    (some vpnInterface) none invalidUid invalidUid

/-- The users of a VPN go to its table. Bypassable VPNs have a lower priority, and let explicitly
selected networks pass. -/
def modifyVpnUidRangeRule (table : Nat) (uidStart uidEnd : Uid) (secure add : Bool) :
    Call Routing :=
  let mask : Fwmark :=
    if secure then { protectedFromVpn := true }
    else { protectedFromVpn := true, explicitlySelected := true }
  let priority := if secure then rulePrioritySecureVpn else rulePriorityBypassableVpn
  modifyIpRule (.ofAdd add) priority .toTbl table ({} : Fwmark).intValue mask.intValue
    iifLoopback none uidStart uidEnd

/-- Sockets of the system that ask for a VPN go to its table. -/
def modifyVpnSystemPermissionRule (netId table : Nat) (secure add : Bool) : Call Routing :=
  let fwmark : Fwmark := { netId := netIdField netId, permission := Permission.system.bits }
  let mask : Fwmark := { netId := fwmarkNetIdMask, permission := Permission.system.bits }
  let priority := if secure then rulePrioritySecureVpn else rulePriorityBypassableVpn
  modifyMarkRule (.ofAdd add) priority table fwmark.intValue mask.intValue

/-- Sockets that select a network explicitly go to its table, if they have its permission. -/
def modifyExplicitNetworkRule (netId table : Nat) (permission : Permission)
    (uidStart uidEnd : Uid) (add : Bool) : Call Routing :=
  let fwmark : Fwmark :=
    { netId := netIdField netId, explicitlySelected := true, permission := permission.bits }
  let mask : Fwmark :=
    { netId := fwmarkNetIdMask, explicitlySelected := true, permission := permission.bits }
  modifyIpRule (.ofAdd add) rulePriorityExplicitNetwork .toTbl table fwmark.intValue
    mask.intValue iifLoopback none uidStart uidEnd

/-- Without a uid range there is also a rule for root that overrides VPNs. -/
def modifyOutputInterfaceRules (interface : String) (table : Nat) (permission : Permission)
    (uidStart uidEnd : Uid) (add : Bool) : Call Routing :=
  let mark : Fwmark := { permission := permission.bits }
  let rootRule : Call Routing :=
    if uidStart = invalidUid ∧ uidEnd = invalidUid then
      modifyIpRule (.ofAdd add) rulePriorityVpnOverrideOif .toTbl table 0 0 iifLoopback
        (some interface) uidRoot uidRoot
    else done
  rootRule.andThen
    (modifyIpRule (.ofAdd add) rulePriorityOutputInterface .toTbl table mark.intValue
      mark.intValue iifLoopback (some interface) uidStart uidEnd)

/-- Sockets that were given a network when they connected go to its table. -/
def modifyImplicitNetworkRule (netId table : Nat) (add : Bool) : Call Routing :=
  let fwmark : Fwmark := { netId := netIdField netId }
  let mask : Fwmark := { netId := fwmarkNetIdMask, explicitlySelected := true }
  modifyIpRule (.ofAdd add) rulePriorityImplicitNetwork .toTbl table fwmark.intValue
    mask.intValue iifLoopback none invalidUid invalidUid

/-- Traffic of a VPN that its table does not route goes to the default network. -/
def modifyVpnFallthroughRule (verb : RuleVerb) (vpnNetId : Nat) (physicalInterface : String)
    (permission : Permission) : Call Routing :=
  withTable physicalInterface fun table =>
    let fwmark : Fwmark := { netId := netIdField vpnNetId, permission := permission.bits }
    let mask : Fwmark :=
      { netId := fwmarkNetIdMask, explicitlySelected := true, permission := permission.bits }
    modifyMarkRule verb rulePriorityVpnFallthrough table fwmark.intValue mask.intValue

/-- The two tables of legacy routes, and the system's before the VPNs for sockets of the system. -/
def addLegacyRouteRules : Call Routing :=
  let mask : Fwmark := { explicitlySelected := true }
  let systemMark : Fwmark := { permission := Permission.system.bits }
  let systemMask : Fwmark := { explicitlySelected := true, permission := Permission.system.bits }
  (modifyMarkRule .newRule rulePriorityLegacySystem routeTableLegacySystem
      ({} : Fwmark).intValue mask.intValue).andThen <|
    (modifyMarkRule .newRule rulePriorityLegacyNetwork routeTableLegacyNetwork
      ({} : Fwmark).intValue mask.intValue).andThen <|
    modifyMarkRule .newRule rulePriorityVpnOverrideSystem routeTableLegacySystem
      systemMark.intValue systemMask.intValue

/-- The table of the local network, explicitly selected and as a fallback. -/
def addLocalNetworkRules (localNetId : Nat) : Call Routing :=
  (modifyExplicitNetworkRule localNetId routeTableLocalNetwork .none invalidUid invalidUid
      true).andThen <|
    modifyMarkRule .newRule rulePriorityLocalNetwork routeTableLocalNetwork
      ({} : Fwmark).intValue ({ explicitlySelected := true } : Fwmark).intValue

/-- The last rule: what no rule before it has routed is unreachable. -/
def addUnreachableRule : Call Routing :=
  modifyIpRule .newRule rulePriorityUnreachable .unreachable rtTableUnspec 0 0 none none
    invalidUid invalidUid

/-- The rules for an interface of the local network. -/
def modifyLocalNetwork (netId : Nat) (interface : String) (add : Bool) : Call Routing :=
  (modifyIncomingPacketMark netId interface .none add).andThen <|
    modifyOutputInterfaceRules interface routeTableLocalNetwork .none invalidUid invalidUid add

/-- Only networks that require no permission have an implicit rule. -/
def modifyPhysicalNetwork (netId : Nat) (interface : String) (permission : Permission)
    (add : Bool) : Call Routing :=
  withTable interface fun table =>
    (modifyIncomingPacketMark netId interface permission add).andThen <|
    (modifyExplicitNetworkRule netId table permission invalidUid invalidUid add).andThen <|
    (modifyOutputInterfaceRules interface table permission invalidUid invalidUid add).andThen <|
    if permission = .none then modifyImplicitNetworkRule netId table add else done

/-- These users are kept off all networks but secure VPNs. -/
def modifyRejectNonSecureNetworkRule (uidRanges : UidRanges) (add : Bool) : Call Routing :=
  each (fun range : UidRangeParcel =>
    modifyIpRule (.ofAdd add) rulePriorityProhibitNonVpn .prohibit rtTableUnspec
      ({} : Fwmark).intValue ({ protectedFromVpn := true } : Fwmark).intValue iifLoopback none
      range.start range.stop) uidRanges.getRanges

/-- The rules of an interface of a VPN. Those that are not about users are left alone when only the
users change. -/
def modifyVirtualNetwork (netId : Nat) (interface : String) (uidRanges : UidRanges)
    (secure add modifyNonUidBasedRules : Bool) : Call Routing :=
  withTable interface fun table =>
    (each (fun range : UidRangeParcel =>
      (modifyVpnUidRangeRule table range.start range.stop secure add).andThen <|
      (modifyExplicitNetworkRule netId table .none range.start range.stop add).andThen <|
      modifyOutputInterfaceRules interface table .none range.start range.stop add)
      uidRanges.getRanges).andThen <|
    if modifyNonUidBasedRules then
      (modifyIncomingPacketMark netId interface .none add).andThen <|
      (modifyVpnOutputToLocalRule interface add).andThen <|
      (modifyVpnSystemPermissionRule netId table secure add).andThen <|
      modifyExplicitNetworkRule netId table .none uidRoot uidRoot add
    else done

/-- The rule for traffic that selects no network. -/
def modifyDefaultNetwork (verb : RuleVerb) (interface : String) (permission : Permission) :
    Call Routing :=
  withTable interface fun table =>
    let fwmark : Fwmark := { netId := netIdField netIdUnset, permission := permission.bits }
    let mask : Fwmark := { netId := fwmarkNetIdMask, permission := permission.bits }
    modifyIpRule verb rulePriorityDefaultNetwork .toTbl table fwmark.intValue mask.intValue
      iifLoopback none invalidUid invalidUid

/-- Packets from a tethered interface go to the table of the upstream one. -/
def modifyTetheredNetwork (verb : RuleVerb) (inputInterface outputInterface : String) :
    Call Routing :=
  withTable outputInterface fun table =>
    modifyIpRule verb rulePriorityTethering .toTbl table 0 0 (some inputInterface) none
      invalidUid invalidUid

/-! ## Routes and tethering cleanup -/

/-- What the number of a table is made from. -/
inductive TableType where
  | interface
  | localNetwork
  | legacyNetwork
  | legacySystem
  deriving DecidableEq

/-- A route request. Only its code matters here. -/
def sendRouteRequest : Call Routing := Routing.syscall done

/-- Adding a route that exists is no error. -/
def modifyRoute (add : Bool) (interface : String) (tableType : TableType) : Call Routing :=
  let request : Call Routing := fun w =>
    let (ret, w) := sendRouteRequest w
    if ret ≠ 0 ∧ ¬ (add = true ∧ ret = -Errno.eexist) then (ret, w) else (0, w)
  if tableType = .interface then withTable interface fun _ => request else request

/-- The interface's table is forgotten on success. -/
def flushRoutes (interface : String) : Call Routing :=
  withTable interface fun _ w =>
    let (ret, w) := sendRouteRequest w
    if ret = 0 then (0, { w with sInterfaceToTable := w.sInterfaceToTable.erase interface })
    else (ret, w)

/-- The loop of `clearTetheringRules`: delete until a deletion fails. -/
def clearTetheringLoop (inputInterface : String) : Nat → Call Routing
  | 0 => fail (-Errno.enoent)
  | fuel + 1 => fun w =>
    let (ret, w) := modifyIpRule .delRule rulePriorityTethering .toTbl 0 0 0
      (some inputInterface) none invalidUid invalidUid w
    if ret = 0 then clearTetheringLoop inputInterface fuel w else (ret, w)

/-- Each round deletes a rule of each family, so there are at most as many
successful rounds as rules. -/
def clearTetheringRules (inputInterface : String) : Call Routing := fun w =>
  let (ret, w) := clearTetheringLoop inputInterface ((w.rules .inet).toList.length + 1) w
  if ret = -Errno.enoent then (0, w) else (ret, w)

/-! ## Startup -/

/-- Everything but the rules of priority zero. -/
def flushRules : Call Routing :=
  each (fun fam => Routing.syscall fun w =>
    (0, w.setRules fam ((w.rules fam).filter fun r => r.priority = 0))) afFamilies

/-- Bring the interface up, then its rules and routes. -/
def configureDummyNetwork : Call Routing :=
  withTable dummyInterfaceName fun table =>
    (Routing.syscall done).andThen <|
    (modifyOutputInterfaceRules dummyInterfaceName table .none invalidUid invalidUid
      true).andThen <|
    sendRouteRequest.andThen sendRouteRequest

/-- Not all devices have the dummy interface, so its failure is not one of
`Init`. -/
def init (localNetId : Nat) : Call Routing :=
  flushRules.andThen <|
  addLegacyRouteRules.andThen <|
  (addLocalNetworkRules localNetId).andThen <|
  addUnreachableRule.andThen <|
  ignore configureDummyNetwork

/-! ## The public operations -/

def addInterfaceToLocalNetwork (netId : Nat) (interface : String) : Call Routing :=
  modifyLocalNetwork netId interface true

def removeInterfaceFromLocalNetwork (netId : Nat) (interface : String) : Call Routing :=
  modifyLocalNetwork netId interface false

/-- An interface of a physical network comes. -/
def addInterfaceToPhysicalNetwork (netId : Nat) (interface : String) (permission : Permission) :
    Call Routing :=
  modifyPhysicalNetwork netId interface permission true

def removeInterfaceFromPhysicalNetwork (netId : Nat) (interface : String)
    (permission : Permission) : Call Routing :=
  (modifyPhysicalNetwork netId interface permission false).andThen <|
    (flushRoutes interface).andThen (clearTetheringRules interface)

/-- An interface of a VPN comes, with the rules of its users. -/
def addInterfaceToVirtualNetwork (netId : Nat) (interface : String) (secure : Bool)
    (uidRanges : UidRanges) : Call Routing :=
  modifyVirtualNetwork netId interface uidRanges secure true true

/-- An interface of a VPN goes, with the rules of its users. -/
def removeInterfaceFromVirtualNetwork (netId : Nat) (interface : String) (secure : Bool)
    (uidRanges : UidRanges) : Call Routing :=
  (modifyVirtualNetwork netId interface uidRanges secure false true).andThen (flushRoutes interface)

/-- The new rules are added before the old ones are deleted. -/
def modifyPhysicalNetworkPermission (netId : Nat) (interface : String)
    (oldPermission newPermission : Permission) : Call Routing :=
  (modifyPhysicalNetwork netId interface newPermission true).andThen
    (modifyPhysicalNetwork netId interface oldPermission false)

def addUsersToRejectNonSecureNetworkRule (uidRanges : UidRanges) : Call Routing :=
  modifyRejectNonSecureNetworkRule uidRanges true

def removeUsersFromRejectNonSecureNetworkRule (uidRanges : UidRanges) : Call Routing :=
  modifyRejectNonSecureNetworkRule uidRanges false

/-- Users join a VPN. The rules of its interface stay. -/
def addUsersToVirtualNetwork (netId : Nat) (interface : String) (secure : Bool)
    (uidRanges : UidRanges) : Call Routing :=
  modifyVirtualNetwork netId interface uidRanges secure true false

/-- Users leave a VPN. The rules of its interface stay. -/
def removeUsersFromVirtualNetwork (netId : Nat) (interface : String) (secure : Bool)
    (uidRanges : UidRanges) : Call Routing :=
  modifyVirtualNetwork netId interface uidRanges secure false false

def addInterfaceToDefaultNetwork (interface : String) (permission : Permission) : Call Routing :=
  modifyDefaultNetwork .newRule interface permission

def removeInterfaceFromDefaultNetwork (interface : String) (permission : Permission) :
    Call Routing :=
  modifyDefaultNetwork .delRule interface permission

def enableTethering (inputInterface outputInterface : String) : Call Routing :=
  modifyTetheredNetwork .newRule inputInterface outputInterface

def disableTethering (inputInterface outputInterface : String) : Call Routing :=
  modifyTetheredNetwork .delRule inputInterface outputInterface

/-- A VPN may fall through to this interface of the default network. -/
def addVirtualNetworkFallthrough (vpnNetId : Nat) (physicalInterface : String)
    (permission : Permission) : Call Routing :=
  modifyVpnFallthroughRule .newRule vpnNetId physicalInterface permission

def removeVirtualNetworkFallthrough (vpnNetId : Nat) (physicalInterface : String)
    (permission : Permission) : Call Routing :=
  modifyVpnFallthroughRule .delRule vpnNetId physicalInterface permission

end RouteController

end Netd
