import Netd.Policy.Isolation
import Netd.Server.FwmarkServer

/-!
# End to end

A socket carries the mark that the fwmark server left after the requests of its owner, and the
rules see that mark. The controller may be another one at each request.
-/

namespace Netd

open FwmarkServer NetworkController List

namespace FwmarkServer

variable {stray : Nat → BitVec 32} {trafficCtrl : FwmarkCommand → Uid → Int} {uid : Uid}
  {c : NetworkController} {mark mark' : Fwmark}

/-- The mark of a new socket after the requests of its owner, each with the
controller that it met. -/
def socketMark (stray : Nat → BitVec 32) (trafficCtrl : FwmarkCommand → Uid → Int) (uid : Uid)
    (requests : List (NetworkController × Delivery × FwmarkCommand)) : Fwmark :=
  requests.foldl (fun mark r => (processClient stray r.1 trafficCtrl uid r.2 mark).2) {}

/-- The controller neither protects sockets of the user nor sees the system in it. -/
def Unprivileged (c : NetworkController) (uid : Uid) : Prop :=
  c.canProtectLocked uid = false ∧
    holdsAll (c.getPermissionForUserLocked uid).bits Permission.system.bits = false

instance (c : NetworkController) (uid : Uid) : Decidable (Unprivileged c uid) :=
  inferInstanceAs (Decidable (_ ∧ _))

/-- The mark is subject to VPNs, with the network permission at most. -/
def Plain (mark : Fwmark) : Prop :=
  mark.protectedFromVpn = false ∧ holdsAll Permission.network.bits mark.permission = true

theorem Plain.not_system (h : Plain mark) :
    holdsAll mark.permission Permission.system.bits = false := by
  have hbits : ∀ bits : BitVec 2, holdsAll Permission.network.bits bits = true →
      holdsAll bits Permission.system.bits = false := by decide
  exact hbits _ h.2

theorem Unprivileged.network (h : Unprivileged c uid) :
    holdsAll Permission.network.bits (c.getPermissionForUserLocked uid).bits = true := by
  have hsys := h.2
  cases hp : c.getPermissionForUserLocked uid with
  | none | network => decide
  | system =>
    rw [hp] at hsys
    cases hsys

theorem switchCommand_plain {command : FwmarkCommand} (h : Unprivileged c uid) (hm : Plain mark)
    (hs : switchCommand stray c trafficCtrl uid command mark = .ok mark') : Plain mark' := by
  have hnet := h.network
  unfold switchCommand at hs
  cases hcmd : command.cmdId with
  | onAccept =>
    rw [hcmd] at hs
    cases hs
    exact ⟨hm.1, holdsAll_or hnet hm.2⟩
  | onConnect | onConnectComplete =>
    rw [hcmd] at hs
    cases hs
    exact ⟨hm.1, hnet⟩
  | selectNetwork =>
    rw [hcmd] at hs
    dsimp only at hs
    split at hs
    · cases hs
      exact ⟨rfl, holdsAll_none _⟩
    split at hs
    · cases hs
    · cases hs
      exact ⟨h.1, hnet⟩
  | protectFromVpn =>
    rw [hcmd] at hs
    dsimp only at hs
    rw [if_pos h.1] at hs
    cases hs
  | selectForUser =>
    rw [hcmd] at hs
    dsimp only at hs
    rw [if_pos h.2] at hs
    cases hs
  | queryUserAccess | tagSocket | untagSocket | setCounterset | deleteTagdata | unknown =>
    rw [hcmd] at hs
    cases hs

theorem socketMark_plain {requests : List (NetworkController × Delivery × FwmarkCommand)}
    (h : ∀ r ∈ requests, Unprivileged r.1 uid) :
    Plain (socketMark stray trafficCtrl uid requests) := by
  induction requests using reverseRecOn with
  | nil => exact ⟨rfl, holdsAll_none _⟩
  | append_singleton requests r ih =>
    have hm := ih fun r' hr' => h r' (mem_append_left _ hr')
    rw [socketMark, foldl_append]
    change Plain (processClient stray r.1 trafficCtrl uid r.2 (socketMark ..)).2
    rcases processClient_mark trafficCtrl uid r.2 _ with hsame | hok
    · rwa [hsame]
    · exact switchCommand_plain (h r (mem_append_right _ mem_cons_self)) hm hok

end FwmarkServer

namespace NetdNativeService

variable {idx idx₀ : String → Nat} {w₀ : Routing} {ops : List Op}
  {st : NetworkController × Routing} {pkt : Packet}

/-- Whatever an unprivileged application asks for, before or after the VPN came up, its packets
only reach tables of secure VPNs that apply to it once it is rejected elsewhere. -/
theorem requests_never_leave_secure_vpn (h₀ : Started idx₀ w₀) (hrun : Run idx₀ w₀ idx ops st)
    (hops : Admissible ops) (hlo : NoLoopback st.1) (hlocal : LocalPacket pkt)
    (stray : Nat → BitVec 32) (trafficCtrl : FwmarkCommand → Uid → Int)
    (requests : List (NetworkController × Delivery × FwmarkCommand))
    (hreqs : ∀ r ∈ requests, Unprivileged r.1 pkt.uid)
    (hmark : pkt.mark = socketMark stray trafficCtrl pkt.uid requests)
    (hreject : ∃ s ∈ rejected ops, s.Contains pkt.uid) (fam : Family) :
    ∀ t ∈ consulted pkt (netdRules st.2 fam).toList, SecureTable idx st.1 pkt.uid t := by
  intro t ht
  have hacc := Run.accounted h₀ hrun hops
  have hm : Plain pkt.mark := hmark ▸ socketMark_plain hreqs
  obtain ⟨s, hs, hin⟩ := hreject
  have hstop : (prohibitNonVpnRule s).matchesPacket pkt = true :=
    userRule_matchesPacket rfl rfl rfl rfl rfl (hacc.rejects_ok s hs) hlocal.iif hm.1 hin
  have hthere : prohibitNonVpnRule s ∈ (netdRules st.2 fam).toList :=
    mem_netdRules.mpr ⟨hacc.books.ledger.reject_mem hs fam, show (12500 : Nat) ≠ 0 by decide⟩
  obtain ⟨x, hx, hmatch, hact, rfl, hprio⟩ := mem_consulted_of_stop hstop
    (fun hact => by cases hact) (netdRules st.2 fam).sorted hthere ht
  exact (hacc.secure_of_priority hlo hlocal hm.not_system hx hmatch hprio (.inl hact)).2.2

def beforeVpn : NetworkController := (Call.each step (lockdown.take 3) (.new, afterInit)).2.1

/-- A packet of a user that selected the default network before the VPN came up. -/
def earlyPacket : Packet where
  mark := socketMark (fun _ => 0) (fun _ _ => 0) 10005#32
    [(beforeVpn, delivered, ⟨.selectNetwork, 100, 0, 0⟩),
      (lockedDown.1, delivered, ⟨.onConnect, 0, 0, 0⟩)]
  uid := 10005#32
  iif := some "lo"
  oif := none

theorem requests_never_leave_secure_vpn_earlyPacket :
    earlyPacket.mark.netId = 100#16 ∧ earlyPacket.mark.explicitlySelected = true ∧
      ∀ t ∈ consulted earlyPacket (netdRules lockedDown.2 .inet).toList,
        SecureTable threeInterfaces lockedDown.1 10005#32 t :=
  ⟨by decide +kernel, by decide +kernel, requests_never_leave_secure_vpn started_afterInit
    run_lockedDown (by decide) (by decide +kernel) ⟨rfl, rfl⟩ _ _ _ (by decide +kernel) rfl
    ⟨⟨10000#32, 19999#32⟩, by decide, by decide⟩ .inet⟩

/-! ## Nothing is left behind -/

/-- When no network has an interface and no range is rejected, the policy is again what `Init`
left. -/
theorem idle_policy_restored (h₀ : Started idx₀ w₀) (hrun : Run idx₀ w₀ idx ops st)
    (hops : Admissible ops) (hreject : rejected ops = 0)
    (hidle : ∀ e ∈ st.1.mNetworks.entries, e.2.getType ≠ .dummy → e.2.getInterfaces.keys = [])
    (fam : Family) : policy st.2 fam = policy w₀ fam := by
  have hnone : controllerItems idx st.1 = 0 := by
    refine sum_eq_zero fun items hitems => ?_
    obtain ⟨⟨k, n⟩, he, rfl⟩ := mem_map.mp hitems
    refine sum_eq_zero fun x hx => ?_
    obtain ⟨i, hi, rfl⟩ := mem_map.mp hx
    cases n with
    | dummy _ => rfl
    | «local» _ | physical _ | virtual _ =>
      rw [hidle _ he (fun htype => by cases htype)] at hi
      cases hi
  have hbalance := (Run.accounted h₀ hrun hops).books.ledger.balance fam
  rwa [hnone, hreject, add_zero, rejectItems, Multiset.map_zero, add_zero] at hbalance

/-- The VPN goes, and so does the interface below it. -/
def comeAndGo : List Op :=
  lockdown ++ [.network (.removeInterfaceFromNetwork 100 "wlan0"), .network (.destroyNetwork 101),
    .networkRejectNonSecureVpn false [⟨10000#32, 19999#32⟩]]

theorem idle_policy_restored_comeAndGo :
    (Call.each step comeAndGo (.new, afterInit)).1 = 0 ∧
      policy (Call.each step comeAndGo (.new, afterInit)).2.2 .inet = policy afterInit .inet := by
  have hcode : (Call.each step comeAndGo (.new, afterInit)).1 = 0 := by decide +kernel
  have hst : Run threeInterfaces afterInit threeInterfaces [] (.new, afterInit) := .start
  exact ⟨hcode, idle_policy_restored started_afterInit (hst.calls comeAndGo hcode) (by decide)
    (by decide) (by decide +kernel) .inet⟩

end NetdNativeService

end Netd
