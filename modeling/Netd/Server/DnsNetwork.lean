import Netd.Server.FwmarkServer

/-!
# The network of a DNS query

`getNetworkForDnsLocked` decides on which network the query of a user goes out, and with which
mark. `DnsChoice` lists what it can decide (`getNetworkForDns_choice`), and what holds of the
result is read off the list. `hasNameservers` is `resolv_has_nameservers`.
-/

namespace Netd

open List SortedSeq Fwmark Option UidRanges BitVec

namespace NetworkController

variable (stray : Nat → BitVec 32) (hasNameservers : Nat → Bool) (c : NetworkController)

/-- `getNetworkForDnsLocked`: `*netId` and the mark. -/
def getNetworkForDnsLocked (netId : Nat) (uid : Uid) : Nat × BitVec 32 :=
  let fwmark : Fwmark := { protectedFromVpn := true, permission := Permission.system.bits }
  if netId = netIdUnset ∧ (c.getVirtualNetworkForUserLocked uid).isNone then
    let netId := c.mDefaultNetId
    (netId,
      { fwmark with netId := BitVec.ofNat 16 netId, explicitlySelected := true : Fwmark }.intValue)
  else
    let (netId, fwmark) :=
      if c.checkUserNetworkAccessLocked stray uid netId = 0 then
        let fwmark := { fwmark with explicitlySelected := true }
        if c.isVirtualNetworkLocked netId ∧ hasNameservers netId = false then
          (c.mDefaultNetId, fwmark)
        else (netId, fwmark)
      else
        match c.getVirtualNetworkForUserLocked uid with
        | some v =>
          if hasNameservers v.mNetId then (v.mNetId, fwmark) else (c.mDefaultNetId, fwmark)
        | none => (c.mDefaultNetId, fwmark)
    (netId, { fwmark with netId := BitVec.ofNat 16 netId : Fwmark }.intValue)

/-- What can be decided for a user and a netId: the netId that is used, and whether the explicit
bit is set. -/
inductive DnsChoice (netId : Nat) (uid : Uid) : Nat → Bool → Prop where
  | unrequested (hunset : netId = netIdUnset)
      (hvpn : c.getVirtualNetworkForUserLocked uid = none) :
      DnsChoice netId uid c.mDefaultNetId true
  | accessible (haccess : c.checkUserNetworkAccessLocked stray uid netId = 0) :
      DnsChoice netId uid netId true
  /-- A VPN without nameservers. -/
  | defaultServers (haccess : c.checkUserNetworkAccessLocked stray uid netId = 0) :
      DnsChoice netId uid c.mDefaultNetId true
  | vpn {v : VirtualNetwork} (haccess : c.checkUserNetworkAccessLocked stray uid netId ≠ 0)
      (hvpn : c.getVirtualNetworkForUserLocked uid = some v) : DnsChoice netId uid v.mNetId false
  | fallback : DnsChoice netId uid c.mDefaultNetId false

def dnsMark (netId : Nat) (explicitlySelected : Bool) : Fwmark where
  netId := BitVec.ofNat 16 netId
  explicitlySelected := explicitlySelected
  protectedFromVpn := true
  permission := Permission.system.bits

theorem getNetworkForDns_choice (netId : Nat) (uid : Uid) : ∃ n e, DnsChoice stray c netId uid n e ∧
      getNetworkForDnsLocked stray hasNameservers c netId uid = (n, (dnsMark n e).intValue) := by
  unfold getNetworkForDnsLocked
  split_ifs with hcommon haccess hservers
  · exact ⟨_, true, .unrequested hcommon.1 (isNone_iff_eq_none.mp hcommon.2), rfl⟩
  · exact ⟨_, true, .defaultServers haccess, rfl⟩
  · exact ⟨_, true, .accessible haccess, rfl⟩
  · cases hvpn : c.getVirtualNetworkForUserLocked uid with
    | none => exact ⟨_, false, .fallback, rfl⟩
    | some v =>
      dsimp only
      split_ifs
      · exact ⟨_, false, .vpn haccess hvpn, rfl⟩
      · exact ⟨_, false, .fallback, rfl⟩

variable {stray c}

/-! ## Access to networks -/

/-- Why a user may use a network. -/
inductive Accessible (c : NetworkController) (uid : Uid) : Network → Prop where
  | system {network : Network}
      (h : holdsAll (c.getPermissionForUserLocked uid).bits Permission.system.bits = true) :
      Accessible c uid network
  | member {v : VirtualNetwork} (h : v.appliesToUser uid = true) : Accessible c uid (.virtual v)
  | unlocked {network : Network} (h : ¬((c.getVirtualNetworkForUserLocked uid).any (·.mSecure) ∧
      c.mProtectableUsers.contains uid = false)) : Accessible c uid network

theorem accessible_of_check {uid : Uid} {netId : Nat}
    (h : c.checkUserNetworkAccessLocked stray uid netId = 0) :
    ∃ network, c.getNetworkLocked netId = some network ∧ Accessible c uid network := by
  unfold checkUserNetworkAccessLocked at h
  cases hget : c.getNetworkLocked netId with
  | none =>
    rw [hget] at h
    exact absurd (show -Errno.enonet = 0 from h) (by decide)
  | some network =>
    refine ⟨network, rfl, ?_⟩
    rw [hget] at h
    dsimp only at h
    split at h
    · exact absurd h (by decide)
    split at h
    · next hsys => exact .system hsys
    split at h
    · rename_i v
      split at h
      · next happ => exact .member happ
      · exact absurd h (by decide)
    · refine .unlocked fun hlock => ?_
      rw [if_pos hlock] at h
      exact absurd h (by decide)

/-! ## The choice -/

namespace DnsChoice

variable {netId n : Nat} {uid : Uid} {e : Bool}

section

variable (h : DnsChoice stray c netId uid n e)
include h

theorem origin : n = c.mDefaultNetId ∨ n = netId ∨
      ∃ v, c.getVirtualNetworkForUserLocked uid = some v ∧ n = v.mNetId := by
  cases h with
  | unrequested _ _ => exact .inl rfl
  | accessible _ => exact .inr (.inl rfl)
  | defaultServers _ => exact .inl rfl
  | vpn _ hvpn => exact .inr (.inr ⟨_, hvpn, rfl⟩)
  | fallback => exact .inl rfl

/-- A network that was asked for is used with permission only. -/
theorem access (hshape : Shape c) (hrequested : n = netId)
    (hdefault : netId ≠ c.mDefaultNetId) : c.checkUserNetworkAccessLocked stray uid n = 0 := by
  cases h with
  | accessible haccess => exact haccess
  | vpn haccess hvpn =>
    obtain ⟨hget, happ⟩ := hshape.getVirtualNetworkForUser hvpn
    have hknown : uid ≠ invalidUid := (spans_of_hasUid happ).1
    simp [checkUserNetworkAccessLocked, hget, hknown, happ]
  | unrequested _ _ | defaultServers _ | fallback => exact absurd hrequested.symm hdefault

/-- A user locked into a VPN gets the default network or a VPN that applies to it. -/
theorem confined (hshape : Shape c) {v : VirtualNetwork}
    (hvpn : c.getVirtualNetworkForUserLocked uid = some v) (hsecure : v.mSecure = true)
    (hsys : holdsAll (c.getPermissionForUserLocked uid).bits Permission.system.bits = false)
    (hprot : c.mProtectableUsers.contains uid = false) :
    n = c.mDefaultNetId ∨ ∃ w, c.getNetworkLocked n = some (.virtual w) ∧
      ∃ r ∈ w.mUidRanges.mRanges, r.Spans uid := by
  cases h with
  | unrequested _ _ | defaultServers _ | fallback => exact .inl rfl
  | vpn _ hfound =>
    obtain ⟨hget, happ⟩ := hshape.getVirtualNetworkForUser hfound
    exact .inr ⟨_, hget, (spans_of_hasUid happ).2⟩
  | accessible haccess =>
    obtain ⟨network, hget, hmay⟩ := accessible_of_check haccess
    cases hmay with
    | system hholds =>
      rw [hsys] at hholds
      cases hholds
    | member happ => exact .inr ⟨_, hget, (spans_of_hasUid happ).2⟩
    | unlocked hfree => exact absurd ⟨by rw [hvpn]; exact hsecure, hprot⟩ hfree

/-- The explicit bit is set for a network that the user may use, or if there was no choice. -/
theorem explicit (he : e = true) : c.checkUserNetworkAccessLocked stray uid netId = 0 ∨
      netId = netIdUnset ∧ c.getVirtualNetworkForUserLocked uid = none := by
  cases h with
  | unrequested hunset hvpn => exact .inr ⟨hunset, hvpn⟩
  | accessible haccess | defaultServers haccess => exact .inl haccess
  | vpn _ _ | fallback => cases he

theorem fits (hc : WellFormed c) : n ≤ 65535 := by
  have hdefault := hc.default_not_virtual.1
  cases h with
  | unrequested _ _ | defaultServers _ | fallback => exact hdefault
  | accessible haccess =>
    obtain ⟨network, hget, _⟩ := accessible_of_check haccess
    exact (hc.toShape.key_bounds hget).2
  | vpn _ hvpn => exact (hc.toShape.key_bounds (hc.toShape.getVirtualNetworkForUser hvpn).1).2

end

end DnsChoice

/-- On every reachable controller, `getNetworkForDns` respects VPNs and permissions, and its mark
says what it chose. -/
theorem dns_network_respects_vpns {σ : Type} (rc : RouteApi σ) {st : NetworkController × σ}
    (h : Reachable rc st) (stray : Nat → BitVec 32) (hasNameservers : Nat → Bool) (netId : Nat)
    (uid : Uid) :
    ∃ n mark, getNetworkForDnsLocked stray hasNameservers st.1 netId uid = (n, mark) ∧
      (n = st.1.mDefaultNetId ∨ n = netId ∨
        ∃ v, st.1.getVirtualNetworkForUserLocked uid = some v ∧ n = v.mNetId) ∧
      (n = netId → netId ≠ st.1.mDefaultNetId → st.1.checkUserNetworkAccessLocked stray uid n = 0) ∧
      (∀ v, st.1.getVirtualNetworkForUserLocked uid = some v → v.mSecure = true →
        holdsAll (st.1.getPermissionForUserLocked uid).bits Permission.system.bits = false →
        st.1.mProtectableUsers.contains uid = false →
        n = st.1.mDefaultNetId ∨ ∃ w, st.1.getNetworkLocked n = some (.virtual w) ∧
          ∃ r ∈ w.mUidRanges.mRanges, r.Spans uid) ∧
      ((ofInt mark).explicitlySelected = true →
        st.1.checkUserNetworkAccessLocked stray uid netId = 0 ∨
          netId = netIdUnset ∧ st.1.getVirtualNetworkForUserLocked uid = none) ∧
      (ofInt mark).netId.toNat = n ∧
      (ofInt mark).protectedFromVpn = true ∧
      (ofInt mark).permission = Permission.system.bits ∧
      (ofInt mark).uidBillingDone = false ∧ (ofInt mark).unused = 0 := by
  have hwf := reachable_wellFormed rc h
  obtain ⟨n, e, hchoice, heq⟩ := getNetworkForDns_choice stray hasNameservers st.1 netId uid
  have hmark : ofInt (dnsMark n e).intValue = dnsMark n e := intValue_inj.mp (intValue_ofInt _)
  refine ⟨n, _, heq, hchoice.origin, hchoice.access hwf.toShape, ?_, ?_, ?_⟩
  · intro v hvpn hsecure hsys hprot
    exact hchoice.confined hwf.toShape hvpn hsecure hsys hprot
  · rw [hmark]
    exact hchoice.explicit
  · rw [hmark]
    exact ⟨FwmarkServer.toNat_ofNat_netId (hchoice.fits hwf), rfl, rfl, rfl, rfl⟩

/-- A controller with the physical networks 100, the default, and 102, and the secure VPN 101 of
user 10001. -/
def secureVpn : NetworkController × List Int :=
  let run := fun st op => (step scripted op st).2
  [.createPhysicalNetwork 100 .none, .setDefaultNetwork 100, .createVirtualNetwork 101 true,
    .addUsersToNetwork 101 [⟨10001, 10001⟩], .createPhysicalNetwork 102 .none].foldl run (new, [])

/-- User 10001 asks for network 102 and gets the VPN. -/
theorem dns_network_respects_vpns_secureVpn :
    (getNetworkForDnsLocked (fun _ => 0) (fun _ => true) secureVpn.1 102 10001).1 = 101 ∧
      secureVpn.1.checkUserNetworkAccessLocked (fun _ => 0) 10001 102 = -Errno.eperm ∧
      ∃ w, secureVpn.1.getNetworkLocked 101 = some (.virtual w) ∧
        ∃ r ∈ w.mUidRanges.mRanges, r.Spans 10001 := by
  have hreach : Reachable scripted secureVpn :=
    .step _ (.step _ (.step _ (.step _ (.step _ (.init _)))))
  have hn : (getNetworkForDnsLocked (fun _ => 0) (fun _ => true) secureVpn.1 102 10001).1 = 101 :=
    by decide +kernel
  refine ⟨hn, by decide +kernel, ?_⟩
  obtain ⟨n, mark, heq, _, _, hconfined, _⟩ :=
    dns_network_respects_vpns scripted hreach (fun _ => 0) (fun _ => true) 102 10001
  obtain rfl : n = 101 := by rw [← hn, heq]
  have hsecure : (secureVpn.1.getVirtualNetworkForUserLocked 10001).any (·.mSecure) = true := by
    decide +kernel
  obtain ⟨v, hvpn, hsecure⟩ := (any_eq_true _ _).mp hsecure
  have hnot : (101 : Nat) ≠ secureVpn.1.mDefaultNetId := by decide +kernel
  exact (hconfined v hvpn hsecure (by decide +kernel) (by decide +kernel)).resolve_left hnot

end NetworkController

end Netd
