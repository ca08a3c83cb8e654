import Netd.Server.NetworkController

/-!
# NetdNativeService

The binder calls that reach the routing policy: the operations of
`NetworkController`, the call that rejects users outside secure VPNs, and the two
tethering calls. They are made one after the other, under netd's locks. Checks
of the caller's permissions and logging are left out.
-/

namespace Netd.NetdNativeService

open RouteController

open RouteController (api)

/-- The calls of the service. -/
inductive Op where
  | network (op : NetworkController.Op)
  | networkRejectNonSecureVpn (add : Bool) (uidRangeArray : List UidRangeParcel)
  | ipfwdAddInterfaceForward (fromIface toIface : String)
  | ipfwdRemoveInterfaceForward (fromIface toIface : String)

def networkRejectNonSecureVpn (add : Bool) (uidRangeArray : List UidRangeParcel) : Call Routing :=
  let uidRanges := UidRanges.ofRanges uidRangeArray
  if add then addUsersToRejectNonSecureNetworkRule uidRanges
  else removeUsersFromRejectNonSecureNetworkRule uidRanges

def step : Op → Call (NetworkController × Routing)
  | .network op => NetworkController.step api op
  | .networkRejectNonSecureVpn add ranges => Call.onSnd (networkRejectNonSecureVpn add ranges)
  | .ipfwdAddInterfaceForward fromIface toIface =>
    Call.onSnd (enableTethering fromIface toIface)
  | .ipfwdRemoveInterfaceForward fromIface toIface =>
    Call.onSnd (disableTethering fromIface toIface)

end Netd.NetdNativeService
