import Netd.Policy.Runs

/-!
# Which rules match a packet

A packet of a local process comes in over `lo`. `LocalMatch` says, for such a packet without
output interface, which rules of a balanced ledger can match it and what the match tells about it.
The isolation properties of the service follow from that.
-/

namespace Netd

open NetworkController List BitVec Rule

/-! ## Matches of single rules -/

theorem netId_agrees {a b : BitVec 16} (h : (a ^^^ b) &&& fwmarkNetIdMask = 0) : b = a := by
  have hall : fwmarkNetIdMask = allOnes 16 := by decide
  rw [hall, and_allOnes] at h
  exact (BitVec.xor_eq_zero_iff.mp h).symm

theorem permission_agrees {a b : BitVec 2} (h : (a ^^^ b) &&& a = 0) : holdsAll b a = true := by
  revert a b
  decide

/-- What a lookup rule that matches a packet says about it. -/
structure LookupMatches (f k : Fwmark) (iif oif : Option String) (u : Option UidRangeParcel)
    (pkt : Packet) : Prop where
  iif : ∀ i, iif = some i → pkt.iif = some i
  oif : ∀ i, oif = some i → pkt.oif = some i
  netId : (f.netId ^^^ pkt.mark.netId) &&& k.netId = 0
  explicitlySelected : k.explicitlySelected = true →
    f.explicitlySelected = pkt.mark.explicitlySelected
  protectedFromVpn : k.protectedFromVpn = true → f.protectedFromVpn = pkt.mark.protectedFromVpn
  permission : (f.permission ^^^ pkt.mark.permission) &&& k.permission = 0
  uid : ∀ r, u = some r → r.Contains pkt.uid

section

variable {pkt : Packet} {priority table : Nat} {f k : Fwmark} {iif oif : Option String}
  {u : Option UidRangeParcel}

theorem lookupRule_matches
    (h : (lookupRule priority table f k iif oif u).matchesPacket pkt = true) :
    LookupMatches f k iif oif u pkt := by
  obtain ⟨hiif, hoif, hmark, huid⟩ := matchesPacket_iff.mp h
  obtain ⟨hnet, hexpl, hprot, hperm, _⟩ := (Fwmark.differ_iff f pkt.mark k).mp hmark
  exact ⟨hiif, hoif, hnet, hexpl, hprot, hperm, huid⟩

/-- A rule for the local, unprotected packets of a uid range matches them. -/
theorem userRule_matchesPacket {x : Rule} {r : UidRangeParcel} (hx : x.iif = iifLoopback)
    (ho : x.oif = none) (hf : x.fwmark = ({} : Fwmark).intValue)
    (hk : x.mask = ({ protectedFromVpn := true } : Fwmark).intValue)
    (hu : x.uidRange = uidAttr r.start r.stop) (hne : r.start ≠ invalidUid)
    (hiif : pkt.iif = some "lo") (hprot : pkt.mark.protectedFromVpn = false)
    (hin : r.Contains pkt.uid) : x.matchesPacket pkt = true := by
  rw [matchesPacket_iff, hx, ho, hf, hk, hu, uidAttr_of_ne hne, Fwmark.differ_iff]
  refine ⟨fun i hi => ?_, fun i hi => (by cases hi), ⟨and_zero, fun hf => (by cases hf),
    fun _ => hprot.symm, and_zero, fun hf => (by cases hf), and_zero⟩,
    fun s hs => ?_⟩
  · cases hi
    exact hiif
  · cases hs
    exact hin

end

/-! ## Rules that match a local packet -/

/-- A packet of a local process that is not bound to an output interface. -/
structure LocalPacket (pkt : Packet) : Prop where
  iif : pkt.iif = some "lo"
  oif : pkt.oif = none

/-- The rules that can match a local packet, and what the match says. -/
inductive LocalMatch (idx : String → Nat) (c : NetworkController) (tethered : Prop)
    (pkt : Packet) (x : Rule) : Prop
  | override (hprio : x.priority = rulePriorityVpnOverrideSystem)
      (hexpl : pkt.mark.explicitlySelected = false)
      (hsystem : holdsAll pkt.mark.permission Permission.system.bits = true)
  | implicit (hprio : rulePriorityExplicitNetwork < x.priority)
      (hexpl : pkt.mark.explicitlySelected = false)
  | stop (hact : x.action ≠ .toTbl) (hprio : rulePrioritySecureVpn < x.priority)
  | localNetwork (hprio : x.priority = rulePriorityExplicitNetwork)
      (hid : pkt.mark.netId = netIdField localNetId)
  | physical {k : Nat} {p : PhysicalNetwork} {i : String}
      (hk : c.getNetworkLocked k = some (.physical p)) (hi : i ∈ p.mInterfaces.keys)
      (hprio : x.priority = rulePriorityExplicitNetwork) (htable : x.table = tableOf idx i)
      (hid : pkt.mark.netId = netIdField k)
      (hperm : holdsAll pkt.mark.permission p.mPermission.bits = true)
  | default (hprio : x.priority = rulePriorityDefaultNetwork)
      (hid : pkt.mark.netId = netIdField netIdUnset)
  | secure {k : Nat} {v : VirtualNetwork} {i : String} {r : UidRangeParcel}
      (hk : c.getNetworkLocked k = some (.virtual v)) (hsecure : v.mSecure = true)
      (hi : i ∈ v.mInterfaces.keys) (hr : r ∈ v.mUidRanges.mRanges)
      (hprio : x.priority = rulePrioritySecureVpn) (hact : x.action = .toTbl)
      (htable : x.table = tableOf idx i)
      (hprot : pkt.mark.protectedFromVpn = false) (hin : r.Contains pkt.uid)
  | vpn {k : Nat} {v : VirtualNetwork} (hk : c.getNetworkLocked k = some (.virtual v))
      (hid : pkt.mark.netId = netIdField k)
      (hwhy : x.priority = rulePriorityExplicitNetwork ∨
        holdsAll pkt.mark.permission Permission.system.bits = true)
  | tether (hprio : x.priority = rulePriorityTethering) (ht : tethered)

section

variable {idx : String → Nat} {c : NetworkController} {tethered : Prop} {pkt : Packet} {x : Rule}

theorem explicitNetworkRule_match {k table : Nat} {permission : Permission} {s e : Uid}
    (h : (explicitNetworkRule k table permission s e).matchesPacket pkt = true) :
    pkt.mark.netId = netIdField k ∧ pkt.mark.explicitlySelected = true ∧
      holdsAll pkt.mark.permission permission.bits = true := by
  have hm := lookupRule_matches h
  exact ⟨netId_agrees hm.netId, (hm.explicitlySelected rfl).symm, permission_agrees hm.permission⟩

theorem output_not_match {o : String} (hlocal : LocalPacket pkt) (ho : x.oif = some o) :
    x.matchesPacket pkt = false := by
  refine Bool.eq_false_iff.mpr fun h => ?_
  have hoif := (matchesPacket_iff.mp h).2.1 o ho
  rw [hlocal.oif] at hoif
  cases hoif

theorem initRules_match (hlocal : LocalPacket pkt) (h : InitRule idx x) (hx : x.priority ≠ 0)
    (hm : x.matchesPacket pkt = true) : LocalMatch idx c tethered pkt x := by
  rcases h with hzero | hinit | hdummy
  · exact absurd hzero hx
  · simp only [initRules, mem_cons, not_mem_nil, or_false] at hinit
    rcases hinit with rfl | rfl | rfl | rfl | rfl | rfl
    · exact .implicit (show 13000 < 15000 by decide)
        ((lookupRule_matches hm).explicitlySelected rfl).symm
    · exact .implicit (show 13000 < 16000 by decide)
        ((lookupRule_matches hm).explicitlySelected rfl).symm
    · have hf := lookupRule_matches hm
      exact .override rfl (hf.explicitlySelected rfl).symm (permission_agrees hf.permission)
    · exact .localNetwork rfl (explicitNetworkRule_match hm).1
    · exact .implicit (show 13000 < 17000 by decide)
        ((lookupRule_matches hm).explicitlySelected rfl).symm
    · exact .stop (fun h => by cases h) (show 12000 < 32000 by decide)
  · rw [outputInterfaceRules, if_pos ⟨rfl, rfl⟩] at hdummy
    simp only [mem_append, mem_cons, not_mem_nil, or_false] at hdummy
    have hnot : x.matchesPacket pkt = false := by
      rcases hdummy with rfl | rfl
      · exact output_not_match hlocal rfl
      · exact output_not_match hlocal rfl
    rw [hnot] at hm
    cases hm

theorem controllerRule_match (hlocal : LocalPacket pkt)
    (hlo : ∀ k n, c.getNetworkLocked k = some n → "lo" ∉ n.getInterfaces.keys)
    (h : ControllerRule idx c x) (hm : x.matchesPacket pkt = true) :
    LocalMatch idx c tethered pkt x := by
  have hnever : x.matchesPacket pkt = false → LocalMatch idx c tethered pkt x := by
    intro hnot
    rw [hnot] at hm
    cases hm
  cases h with
  | physical hk hi hx =>
    rcases mem_physicalRules.mp hx with rfl | rfl | rfl | ⟨_, rfl⟩
    · obtain ⟨hid, _, hperm⟩ := explicitNetworkRule_match hm
      exact .physical hk hi rfl rfl hid hperm
    · exact hnever (output_not_match hlocal rfl)
    · exact hnever (output_not_match hlocal rfl)
    · exact .implicit (show 13000 < 19000 by decide)
        ((lookupRule_matches hm).explicitlySelected rfl).symm
  | default hk hi hd hx =>
    rcases mem_cons.mp hx with rfl | hfall
    · exact .default rfl (netId_agrees (lookupRule_matches hm).netId)
    obtain ⟨vpn, _, rfl⟩ := mem_map.mp hfall
    exact .implicit (show 13000 < 21000 by decide)
      ((lookupRule_matches hm).explicitlySelected rfl).symm
  | @users k v i r _ hk hi hr hne hx =>
    rw [virtualUidRules_of_ne hne] at hx
    simp only [mem_cons, not_mem_nil, or_false] at hx
    rcases hx with rfl | rfl | rfl
    · have hf := lookupRule_matches hm
      have hin := hf.uid r (uidAttr_of_ne hne)
      cases hsecure : v.mSecure with
      | true =>
        rw [hsecure] at hf
        exact .secure hk hsecure hi hr rfl rfl rfl (hf.protectedFromVpn rfl).symm hin
      | false =>
        rw [hsecure] at hf
        exact .implicit (show 13000 < 20000 by decide) (hf.explicitlySelected rfl).symm
    · exact .vpn hk (explicitNetworkRule_match hm).1 (.inl rfl)
    · exact hnever (output_not_match hlocal rfl)
  | @virtual k v i _ hk hi hx =>
    simp only [virtualNonUidRules, mem_cons, not_mem_nil, or_false] at hx
    rcases hx with rfl | rfl | rfl
    · have hiif := (lookupRule_matches hm).iif i rfl
      rw [hlocal.iif] at hiif
      cases hiif
      exact absurd hi (hlo k _ hk)
    · have hf := lookupRule_matches hm
      exact .vpn hk (netId_agrees hf.netId) (.inr (permission_agrees hf.permission))
    · exact .vpn hk (explicitNetworkRule_match hm).1 (.inl rfl)
  | «local» hk hi hx =>
    rcases mem_localRules.mp hx with rfl | rfl
    · exact hnever (output_not_match hlocal rfl)
    · exact hnever (output_not_match hlocal rfl)

end

namespace NetdNativeService

/-- The rules netd installed in a family. Priority zero is the kernel's own. -/
def netdRules (w : Routing) (fam : Family) : FibRules :=
  (w.rules fam).filter fun r => r.priority ≠ 0

theorem mem_netdRules {w : Routing} {fam : Family} {x : Rule} :
    x ∈ (netdRules w fam).toList ↔ x ∈ (w.rules fam).toList ∧ x.priority ≠ 0 := by
  simp [netdRules, PrioList.filter]

def NoLoopback (c : NetworkController) : Prop := c.getNetworkForInterfaceLocked "lo" = netIdUnset

instance (c : NetworkController) : Decidable (NoLoopback c) := inferInstanceAs (Decidable (_ = _))

/-- No call tethered `lo`. -/
def NoLoopbackTethering (ops : List Op) : Prop :=
  ∀ toIface, Op.ipfwdAddInterfaceForward "lo" toIface ∉ ops

/-- `t` is the table of an interface of a secure VPN that applies to the user. -/
def SecureTable (idx : String → Nat) (c : NetworkController) (uid : Uid) (t : Nat) : Prop :=
  ∃ k v i r, c.getNetworkLocked k = some (.virtual v) ∧ v.mSecure = true ∧
    i ∈ v.mInterfaces.keys ∧ r ∈ v.mUidRanges.mRanges ∧ r.Contains uid ∧ t = tableOf idx i

variable {idx idx₀ : String → Nat} {w₀ : Routing} {ops : List Op}
  {st : NetworkController × Routing} {pkt : Packet} {x : Rule} {fam : Family}

/-- The rules that match a local packet in a run. -/
theorem Accounted.localMatch (h : Accounted w₀ idx ops st) (hlo : NoLoopback st.1)
    (hlocal : LocalPacket pkt) (hx : x ∈ (netdRules st.2 fam).toList)
    (hm : x.matchesPacket pkt = true) :
    LocalMatch idx st.1 (∃ toIface, Op.ipfwdAddInterfaceForward "lo" toIface ∈ ops) pkt x := by
  obtain ⟨hmem, hne⟩ := mem_netdRules.mp hx
  rcases h.books.ledger.rule_cases h.initBase hmem with hinit | hctrl | ⟨r, _, rfl⟩ | ⟨ht, hprio⟩
  · exact initRules_match hlocal hinit hne hm
  · have hshape := h.books.ledger.shape
    refine controllerRule_match hlocal (fun k n hk hlo' => ?_) hctrl hm
    exact hshape.ne_unset hk ((hshape.getNetworkForInterface hk hlo').symm.trans hlo)
  · exact .stop (fun hact => by cases hact) (show 12000 < 12500 by decide)
  obtain ⟨fromIface, toIface, hop, hiif⟩ := ht
  have heq := (matchesPacket_iff.mp hm).1 fromIface hiif
  rw [hlocal.iif] at heq
  cases heq
  exact .tether hprio ⟨toIface, hop⟩

/-! ## Secure VPNs -/

/-- Up to the prohibit rules, an unprivileged local packet only matches rules of its secure VPNs. -/
theorem Accounted.secure_of_priority (h : Accounted w₀ idx ops st) (hlo : NoLoopback st.1)
    (hlocal : LocalPacket pkt) (hperm : holdsAll pkt.mark.permission Permission.system.bits = false)
    (hx : x ∈ (netdRules st.2 fam).toList) (hm : x.matchesPacket pkt = true)
    (hprio : x.priority ≤ rulePriorityProhibitNonVpn)
    (hact : x.action = .toTbl ∨ x.priority ≤ rulePrioritySecureVpn) :
    x.priority = rulePrioritySecureVpn ∧ x.action = .toTbl ∧
      SecureTable idx st.1 pkt.uid x.table := by
  simp only [rulePriorityProhibitNonVpn, rulePrioritySecureVpn] at hprio hact
  cases h.localMatch hlo hlocal hx hm with
  | override _ _ hsys => simp [hperm] at hsys
  | implicit hlater _ =>
    rw [rulePriorityExplicitNetwork] at hlater
    omega
  | stop hstop hlater =>
    rw [rulePrioritySecureVpn] at hlater
    rcases hact with hlook | hearly
    · exact absurd hlook hstop
    · omega
  | localNetwork hlater _ | physical _ _ hlater _ _ _ =>
    rw [rulePriorityExplicitNetwork] at hlater
    omega
  | default hlater _ =>
    rw [rulePriorityDefaultNetwork] at hlater
    omega
  | secure hk hsecure hi hr hsame hlook htable _ hin =>
    exact ⟨hsame, hlook, _, _, _, _, hk, hsecure, hi, hr, hin, htable⟩
  | vpn _ _ hwhy =>
    rcases hwhy with hlater | hsys
    · rw [rulePriorityExplicitNetwork] at hlater
      omega
    · simp [hperm] at hsys
  | tether hlater _ =>
    rw [rulePriorityTethering] at hlater
    omega

/-- Secure VPNs cannot be bypassed: a local packet of a user first matches a lookup in a table of
one, and if the user is rejected elsewhere, no other table is consulted. -/
theorem secure_vpn_not_bypassed (h₀ : Started idx₀ w₀) (hrun : Run idx₀ w₀ idx ops st)
    (hops : Admissible ops) (hlo : NoLoopback st.1) {k : Nat} {v : VirtualNetwork}
    {r : UidRangeParcel} (hk : st.1.getNetworkLocked k = some (.virtual v))
    (hsecure : v.mSecure = true) (hup : v.mInterfaces.keys ≠ []) (hr : r ∈ v.mUidRanges.mRanges)
    (hin : r.Contains pkt.uid) (hlocal : LocalPacket pkt)
    (hprot : pkt.mark.protectedFromVpn = false)
    (hperm : holdsAll pkt.mark.permission Permission.system.bits = false) (fam : Family) :
    (∃ x, (netdRules st.2 fam).toList.find? (fun x => x.matchesPacket pkt) = some x ∧
        x.priority = rulePrioritySecureVpn ∧ x.action = .toTbl ∧
        SecureTable idx st.1 pkt.uid x.table) ∧
      ((∃ s ∈ rejected ops, s.Contains pkt.uid) →
        ∀ t ∈ consulted pkt (netdRules st.2 fam).toList, SecureTable idx st.1 pkt.uid t) := by
  have hacc := Run.accounted h₀ hrun hops
  obtain ⟨i, hi⟩ := exists_mem_of_ne_nil _ hup
  have hne := (hacc.books.ledger.ranges_ok k _ hk).2 hup r hr
  refine ⟨?_, fun ⟨s, hs, hsin⟩ t ht => ?_⟩
  · -- the rule of the VPN is there, so the first match comes no later
    have hrule := hacc.books.ledger.users_mem hk hi hr mem_cons_self fam
    rw [hsecure] at hrule
    have hmem : vpnUidRangeRule (tableOf idx i) r.start r.stop true ∈ (netdRules st.2 fam).toList :=
      mem_netdRules.mpr ⟨hrule, show (12000 : Nat) ≠ 0 by decide⟩
    have hmatch : (vpnUidRangeRule (tableOf idx i) r.start r.stop true).matchesPacket pkt = true :=
      userRule_matchesPacket rfl rfl rfl rfl rfl hne hlocal.iif hprot hin
    obtain ⟨x, hx⟩ := Option.isSome_iff_exists.mp
      (List.find?_isSome.mpr ⟨_, hmem, hmatch⟩ :
        ((netdRules st.2 fam).toList.find? fun x => x.matchesPacket pkt).isSome = true)
    have hle : x.priority ≤ rulePrioritySecureVpn := PrioList.prio_le_of_find? hx hmem hmatch
    have hxm := List.find?_some (p := fun x : Rule => x.matchesPacket pkt) hx
    exact ⟨x, hx, hacc.secure_of_priority hlo hlocal hperm (mem_of_find?_eq_some hx) hxm
      (Nat.le_trans hle (by decide)) (.inr hle)⟩
  · have hstop : (prohibitNonVpnRule s).matchesPacket pkt = true :=
      userRule_matchesPacket rfl rfl rfl rfl rfl (hacc.rejects_ok s hs) hlocal.iif hprot hsin
    have hthere : prohibitNonVpnRule s ∈ (netdRules st.2 fam).toList :=
      mem_netdRules.mpr ⟨hacc.books.ledger.reject_mem hs fam, show (12500 : Nat) ≠ 0 by decide⟩
    obtain ⟨x, hx, hm, hact, rfl, hprio⟩ := mem_consulted_of_stop hstop
      (fun hact => by cases hact) (netdRules st.2 fam).sorted hthere ht
    exact (hacc.secure_of_priority hlo hlocal hperm hx hm hprio (.inl hact)).2.2

/-- A secure VPN with one user range, for users that are rejected elsewhere, next
to a default network. -/
def lockdown : List Op :=
  [.network (.createPhysicalNetwork 100 .none), .network (.addInterfaceToNetwork 100 "wlan0"),
    .network (.setDefaultNetwork 100), .network (.createVirtualNetwork 101 true),
    .network (.addInterfaceToNetwork 101 "tun0"),
    .network (.addUsersToNetwork 101 [⟨10000#32, 10010#32⟩]),
    .networkRejectNonSecureVpn true [⟨10000#32, 19999#32⟩]]

def lockedDown : NetworkController × Routing := (Call.each step lockdown (.new, afterInit)).2

theorem run_lockedDown :
    Run threeInterfaces afterInit threeInterfaces (lockdown.reverse ++ []) lockedDown := by
  have hcode : (Call.each step lockdown (.new, afterInit)).1 = 0 := by decide +kernel
  have hstart : Run threeInterfaces afterInit threeInterfaces [] (.new, afterInit) := .start
  exact hstart.calls lockdown hcode

/-- The virtual network under a netId. -/
def virtualNetwork? (c : NetworkController) (k : Nat) : Option VirtualNetwork :=
  match c.getNetworkLocked k with
  | some (.virtual v) => some v
  | _ => none

theorem getNetworkLocked_virtual {c : NetworkController} {k : Nat} {v : VirtualNetwork}
    (h : virtualNetwork? c k = some v) : c.getNetworkLocked k = some (.virtual v) := by
  rw [virtualNetwork?] at h
  split at h
  · next v' hv => exact hv.trans (congrArg (fun u => some (Network.virtual u)) (Option.some.inj h))
  · cases h

theorem lockedDown_vpn : ∃ v, lockedDown.1.getNetworkLocked 101 = some (.virtual v) ∧
    v.mSecure = true ∧ v.mInterfaces.keys = ["tun0"] ∧
      v.mUidRanges.mRanges = [⟨10000#32, 10010#32⟩] := by
  have h : ∃ v ∈ virtualNetwork? lockedDown.1 101, v.mSecure = true ∧
      v.mInterfaces.keys = ["tun0"] ∧ v.mUidRanges.mRanges = [⟨10000#32, 10010#32⟩] := by
    decide +kernel
  obtain ⟨v, hv, hprops⟩ := h
  exact ⟨v, getNetworkLocked_virtual hv, hprops⟩

/-- A packet of a VPN user that selected the default network explicitly. -/
def selectingPacket : Packet where
  mark := { netId := netIdField 100, explicitlySelected := true }
  uid := 10005#32
  iif := some "lo"
  oif := none

theorem secure_vpn_not_bypassed_lockedDown :
    (∃ x, (netdRules lockedDown.2 .inet).toList.find? (fun x => x.matchesPacket selectingPacket) =
        some x ∧ x.priority = rulePrioritySecureVpn) ∧
      ∀ t ∈ consulted selectingPacket (netdRules lockedDown.2 .inet).toList,
        SecureTable threeInterfaces lockedDown.1 10005#32 t := by
  obtain ⟨v, hv, hsecure, hup, hranges⟩ := lockedDown_vpn
  have hr : (⟨10000#32, 10010#32⟩ : UidRangeParcel) ∈ v.mUidRanges.mRanges :=
    hranges ▸ mem_cons_self
  have hreject : ∃ s ∈ rejected (lockdown.reverse ++ []), s.Contains selectingPacket.uid :=
    ⟨⟨10000#32, 19999#32⟩, by decide, by decide⟩
  obtain ⟨⟨x, hx, hprio, _⟩, hconsulted⟩ := secure_vpn_not_bypassed started_afterInit run_lockedDown
    (by decide) (by decide +kernel) hv hsecure (by rw [hup]; exact cons_ne_nil _ _) hr
    (by decide) (⟨rfl, rfl⟩ : LocalPacket selectingPacket) rfl (by decide) .inet
  exact ⟨⟨x, hx, hprio⟩, hconsulted hreject⟩

/-! ## Explicit selection -/

theorem netIdField_inj {k n : Nat} (hk : k ≤ 65535) (hn : n ≤ 65535)
    (h : netIdField k = netIdField n) : k = n := by
  have hnat := congrArg BitVec.toNat h
  simp only [netIdField, toNat_ofNat] at hnat
  omega

/-- A packet that explicitly selects a physical network only reaches tables of that network, with
its permission, and of secure VPNs of its user. -/
theorem explicit_selection_isolates (h₀ : Started idx₀ w₀) (hrun : Run idx₀ w₀ idx ops st)
    (hops : Admissible ops) (hlo : NoLoopback st.1) (htether : NoLoopbackTethering ops)
    {n : Nat} {p : PhysicalNetwork} (hn : st.1.getNetworkLocked n = some (.physical p))
    (hlocal : LocalPacket pkt) (hexpl : pkt.mark.explicitlySelected = true)
    (hid : pkt.mark.netId = netIdField n) (hx : x ∈ (netdRules st.2 fam).toList)
    (hm : x.matchesPacket pkt = true) (hact : x.action = .toTbl) :
    (∃ i ∈ p.mInterfaces.keys, x.table = tableOf idx i ∧
        holdsAll pkt.mark.permission p.mPermission.bits = true) ∨
      (SecureTable idx st.1 pkt.uid x.table ∧ pkt.mark.protectedFromVpn = false) := by
  have hacc := Run.accounted h₀ hrun hops
  have hshape := hacc.books.ledger.shape
  have hbound := hshape.key_bounds hn
  have hrange := hshape.in_range n _ hn
  -- a netId field that is the packet's is the field of `n`
  have hsame : ∀ k, k ≤ 65535 → pkt.mark.netId = netIdField k → k = n := fun k hk heq =>
    netIdField_inj hk hbound.2 (heq.symm.trans hid)
  cases hacc.localMatch hlo hlocal hx hm with
  | override _ hnot _ | implicit _ hnot => simp [hexpl] at hnot
  | stop hstop _ => exact absurd hact hstop
  | localNetwork _ heq =>
    have hkey := hsame localNetId (by decide) heq
    rw [← hkey] at hrange
    have hlocal : ¬ netIdInRange localNetId .physical := by simp [netIdInRange, localNetId]
    exact absurd hrange hlocal
  | @physical k p' i hk hi _ htable heq hperm =>
    cases hsame k (hshape.key_bounds hk).2 heq
    rw [hn] at hk
    cases hk
    exact .inl ⟨i, hi, htable, hperm⟩
  | default _ heq =>
    have hkey := hsame netIdUnset (by decide) heq
    exact absurd hkey.symm hbound.1.ne'
  | secure hk hsecure hi hr _ _ htable hprot hin =>
    exact .inr ⟨⟨_, _, _, _, hk, hsecure, hi, hr, hin, htable⟩, hprot⟩
  | @vpn k v hk heq _ =>
    cases hsame k (hshape.key_bounds hk).2 heq
    rw [hn] at hk
    cases hk
  | tether _ ht =>
    obtain ⟨toIface, hop⟩ := ht
    exact absurd hop (htether toIface)

theorem noLoopbackTethering_lockdown : NoLoopbackTethering (lockdown.reverse ++ []) := by
  intro toIface hop
  simp [lockdown] at hop

theorem explicit_selection_isolates_lockedDown :
    ∃ p, lockedDown.1.getNetworkLocked 100 = some (.physical p) ∧
      ∀ x ∈ (netdRules lockedDown.2 .inet6).toList, x.matchesPacket selectingPacket = true →
        x.action = .toTbl →
        (∃ i ∈ p.mInterfaces.keys, x.table = tableOf threeInterfaces i ∧
            holdsAll selectingPacket.mark.permission p.mPermission.bits = true) ∨
          (SecureTable threeInterfaces lockedDown.1 10005#32 x.table ∧
            selectingPacket.mark.protectedFromVpn = false) := by
  have h : ∃ n ∈ lockedDown.1.getNetworkLocked 100, n.getType = .physical := by decide +kernel
  obtain ⟨n, hn, htype⟩ := h
  cases n with
  | physical p =>
    exact ⟨p, hn, fun x hx hm hact => explicit_selection_isolates started_afterInit run_lockedDown
      (by decide) (by decide +kernel) noLoopbackTethering_lockdown hn ⟨rfl, rfl⟩ rfl rfl hx hm
      hact⟩
  | dummy _ | «local» _ | virtual _ => cases htype

/-! ## Confinement -/

theorem passed_of_mem_rejected {r : UidRangeParcel} (h : r ∈ rejected ops) :
    ∃ ranges, Op.networkRejectNonSecureVpn true ranges ∈ ops ∧ r ∈ ranges := by
  induction ops with
  | nil => exact absurd h (Multiset.notMem_zero r)
  | cons op ops ih =>
    have hlater : r ∈ rejected ops →
        ∃ ranges, Op.networkRejectNonSecureVpn true ranges ∈ op :: ops ∧ r ∈ ranges := by
      intro hold
      obtain ⟨ranges, hop, hr⟩ := ih hold
      exact ⟨ranges, mem_cons_of_mem _ hop, hr⟩
    cases op with
    | network op | ipfwdAddInterfaceForward i o | ipfwdRemoveInterfaceForward i o => exact hlater h
    | networkRejectNonSecureVpn add ranges =>
      cases add with
      | true =>
        rcases Multiset.mem_add.mp h with hold | hnew
        · exact hlater hold
        · exact ⟨ranges, mem_cons_self, hnew⟩
      | false => exact hlater (Multiset.mem_of_le (Multiset.sub_le_self ..) h)

/-- No rule looks up a table of VPN `v` for a packet outside its ranges, or prohibits one outside
the rejected ranges. -/
structure Confined (idx : String → Nat) (ops : List Op) (st : NetworkController × Routing)
    (pkt : Packet) : Prop where
  vpn : ∀ k v, st.1.getNetworkLocked k = some (.virtual v) →
    (∀ r ∈ v.mUidRanges.mRanges, ¬ r.Contains pkt.uid) →
    ∀ i ∈ v.mInterfaces.keys, ∀ fam, ∀ x ∈ (netdRules st.2 fam).toList, x.action = .toTbl →
      x.table = tableOf idx i → x.matchesPacket pkt = false
  prohibit : ∀ fam, ∀ x ∈ (netdRules st.2 fam).toList, x.priority = rulePriorityProhibitNonVpn →
    x.matchesPacket pkt = true →
    ∃ ranges r, Op.networkRejectNonSecureVpn true ranges ∈ ops ∧ r ∈ ranges ∧ r.Contains pkt.uid

/-- A rule that looks up the table of an interface of a VPN is one of that VPN. -/
theorem Accounted.rule_of_table {k : Nat} {v : VirtualNetwork} {i : String}
    (h : Accounted w₀ idx ops st) (hk : st.1.getNetworkLocked k = some (.virtual v))
    (hi : i ∈ v.mInterfaces.keys) (hctrl : ControllerRule idx st.1 x) (hne : x.priority ≠ 0)
    (htable : x.table = tableOf idx i) :
    (∃ r ∈ v.mUidRanges.mRanges, x.uidRange = some r) ∨
      x ∈ virtualNonUidRules k i (tableOf idx i) v.mSecure := by
  have hledger := h.books.ledger
  have habout : x.About idx i := ⟨hne, hctrl.priority_ne.2,
    .inl ⟨hledger.has_tables k _ hk (.inr rfl) i hi, htable⟩⟩
  -- the interface of the rule is `i`, so its network is the VPN
  have hsame : ∀ {k' n' j}, st.1.getNetworkLocked k' = some n' → j ∈ n'.getInterfaces.keys →
      x.OfInterface idx j → i = j ∧ k' = k ∧ n' = .virtual v := by
    intro k' n' j hk' hj hof
    have hij : i = j := by
      by_contra hij
      exact hof.not_about h.distinct hij habout
    have hkey := hledger.shape.one_network k' n' k _ i hk' hk (hij ▸ hj) hi
    rw [hkey, hk] at hk'
    cases hk'
    exact ⟨hij, hkey, rfl⟩
  cases hctrl with
  | physical hk' hj hx => cases (hsame hk' hj (ofInterface_physicalRules hx)).2.2
  | default hk' hj hd hx => cases (hsame hk' hj (ofInterface_defaultRules hx)).2.2
  | @users k' v' j r _ hk' hj hr hstart hx =>
    obtain ⟨rfl, rfl, heq⟩ := hsame hk' hj (vpnRule_of_mem_uid hstart hx).ofInterface
    cases heq
    refine .inl ⟨r, hr, ?_⟩
    rw [virtualUidRules_of_ne hstart] at hx
    simp only [mem_cons, not_mem_nil, or_false] at hx
    rcases hx with rfl | rfl | rfl
    · exact uidAttr_of_ne hstart
    · exact uidAttr_of_ne hstart
    · exact uidAttr_of_ne hstart
  | @virtual k' v' j _ hk' hj hx =>
    obtain ⟨rfl, rfl, heq⟩ := hsame hk' hj (vpnRule_of_mem_nonUid hx).ofInterface
    cases heq
    exact .inr hx
  | «local» hk' hj hx => cases (hsame hk' hj (ofInterface_localRules hx)).2.2

/-- An unprivileged packet stays out of VPNs that do not apply to it, and is prohibited only in a
rejected range. -/
theorem users_confined (h₀ : Started idx₀ w₀) (hrun : Run idx₀ w₀ idx ops st)
    (hops : Admissible ops) (htether : NoLoopbackTethering ops) (hiif : pkt.iif = some "lo")
    (hperm : holdsAll pkt.mark.permission Permission.system.bits = false)
    (huid : pkt.uid ≠ uidRoot) : Confined idx ops st pkt := by
  have hacc := Run.accounted h₀ hrun hops
  have hledger := hacc.books.ledger
  refine ⟨fun k v hk hout i hi fam x hx hact htable => ?_, fun fam x hx hprio hm => ?_⟩
  · obtain ⟨hmem, hne⟩ := mem_netdRules.mp hx
    refine Bool.eq_false_iff.mpr fun hm => ?_
    obtain ⟨hmatchIif, _, _, hmatchUid⟩ := matchesPacket_iff.mp hm
    rcases hledger.rule_cases hacc.initBase hmem with hinit | hctrl | ⟨r, _, rfl⟩ | ⟨ht, hprio⟩
    · have hidx := hledger.has_tables k _ hk (.inr rfl) i hi
      have hdummy := hledger.interface_ne_dummy hk (fun hd => by cases hd) hi
      exact hinit.not_about hacc.distinct hdummy
        ⟨hne, hinit.priority_ne (by decide), .inl ⟨hidx, htable⟩⟩
    · rcases hacc.rule_of_table hk hi hctrl hne htable with ⟨r, hr, hrange⟩ | hnon
      · exact hout r hr (hmatchUid r hrange)
      simp only [virtualNonUidRules, mem_cons, not_mem_nil, or_false] at hnon
      rcases hnon with rfl | rfl | rfl
      · have hlow : routeTableLocalNetwork = idx i + routeTableOffsetFromIndex := htable
        rw [routeTableLocalNetwork, routeTableOffsetFromIndex] at hlow
        omega
      · have hsys := permission_agrees (lookupRule_matches hm).permission
        exact Bool.false_ne_true (hperm.symm.trans hsys)
      have hrange : uidAttr uidRoot uidRoot = some ⟨uidRoot, uidRoot⟩ := uidAttr_of_ne (by decide)
      have hroot := hmatchUid ⟨uidRoot, uidRoot⟩ hrange
      exact huid (le_antisymm hroot.2 hroot.1)
    · cases hact
    · obtain ⟨fromIface, toIface, hop, hfrom⟩ := ht
      have heq := hmatchIif fromIface hfrom
      rw [hiif] at heq
      cases heq
      exact htether toIface hop
  · obtain ⟨hmem, hne⟩ := mem_netdRules.mp hx
    rcases hledger.rule_cases hacc.initBase hmem with hinit | hctrl | ⟨r, hr, rfl⟩ | ⟨_, ht⟩
    · exact absurd hprio (hinit.priority_ne (by decide))
    · exact absurd hprio hctrl.priority_ne.1
    · obtain ⟨ranges, hop, hpass⟩ := passed_of_mem_rejected hr
      have hin := (matchesPacket_iff.mp hm).2.2.2 r (uidAttr_of_ne (hacc.rejects_ok r hr))
      exact ⟨ranges, r, hop, hpass, hin⟩
    · rw [hprio] at ht
      cases ht

/-- A packet of a user that the VPN does not apply to, and whom nobody rejected. -/
def outsiderPacket : Packet where
  mark := {}
  uid := 20001#32
  iif := some "lo"
  oif := none

theorem users_confined_lockedDown :
    Confined threeInterfaces (lockdown.reverse ++ []) lockedDown outsiderPacket :=
  users_confined started_afterInit run_lockedDown (by decide) noLoopbackTethering_lockdown rfl
    (by decide) (by decide)

/-- A VPN and a rejection whose only range is the one that stands for no range. -/
def sentinelRange : List Op :=
  [.network (.createVirtualNetwork 100 true), .network (.addInterfaceToNetwork 100 "tun0"),
    .network (.addUsersToNetwork 100 [⟨invalidUid, invalidUid⟩]),
    .networkRejectNonSecureVpn true [⟨invalidUid, invalidUid⟩]]

def captured : NetworkController × Routing := (Call.each step sentinelRange (.new, afterInit)).2

/-- Every call succeeds, the user is in no range, and both kinds of rules match the
user's packets. -/
theorem sentinel_range_captures_users : (Call.each step sentinelRange (.new, afterInit)).1 = 0 ∧
      (∃ v, captured.1.getNetworkLocked 100 = some (.virtual v) ∧
        (∀ r ∈ v.mUidRanges.mRanges, ¬ r.Contains outsiderPacket.uid) ∧
        ∃ i ∈ v.mInterfaces.keys, ∃ x ∈ (netdRules captured.2 .inet).toList, x.action = .toTbl ∧
          x.table = tableOf threeInterfaces i ∧ x.matchesPacket outsiderPacket = true) ∧
      (∃ x ∈ (netdRules captured.2 .inet).toList, x.priority = rulePriorityProhibitNonVpn ∧
        x.matchesPacket outsiderPacket = true) ∧
      ¬ Confined threeInterfaces (sentinelRange.reverse ++ []) captured outsiderPacket := by
  have hvpn : ∃ v ∈ virtualNetwork? captured.1 100,
      (∀ r ∈ v.mUidRanges.mRanges, ¬ r.Contains outsiderPacket.uid) ∧
        ∃ i ∈ v.mInterfaces.keys, ∃ x ∈ (netdRules captured.2 .inet).toList, x.action = .toTbl ∧
          x.table = tableOf threeInterfaces i ∧ x.matchesPacket outsiderPacket = true := by
    decide +kernel
  obtain ⟨v, hv, hout, i, hi, x, hx, hact, htable, hm⟩ := hvpn
  have hk := getNetworkLocked_virtual hv
  refine ⟨by decide +kernel, ⟨v, hk, hout, i, hi, x, hx, hact, htable, hm⟩, by decide +kernel,
    fun hconfined => ?_⟩
  have hnot := hconfined.vpn 100 v hk hout i hi .inet x hx hact htable
  rw [hm] at hnot
  cases hnot

end NetdNativeService

end Netd
