import Netd.Lib.Footprint
import Netd.Server.RouteController

/-!
# What the routing functions do to the kernel

Each function of `RouteController` that succeeds has carried out an edit script in each address
family: a list of rules to add or delete, in order, and a list of mark rules (`Performs`). `idx`
is the numbering of interfaces as netd sees it: `Numbered` says that it is what `if_nametoindex`
reports, or, for an interface that went away, what the table cache remembers.
-/

namespace Netd

open RouteController Call Edit Prod Multiset Function Routing Rule

/-! ## The rules netd installs -/

/-- The uid range attribute of a request; `INVALID_UID` stands for none. -/
def uidAttr (uidStart uidEnd : Uid) : Option UidRangeParcel :=
  if uidStart ≠ invalidUid then some ⟨uidStart, uidEnd⟩ else none

/-- A rule that looks up a table. -/
def lookupRule (priority table : Nat) (fwmark mask : Fwmark) (iif oif : Option String)
    (uidRange : Option UidRangeParcel) : Rule :=
  ⟨priority, .toTbl, table, fwmark.intValue, mask.intValue, iif, oif, uidRange⟩

def vpnOutputToLocalRule (vpnInterface : String) : Rule :=
  lookupRule rulePriorityVpnOutputToLocal routeTableLocalNetwork {} {} (some vpnInterface) none none

/-- The priority of the rules that send users to a VPN. -/
def vpnPriority (secure : Bool) : Nat :=
  if secure then rulePrioritySecureVpn else rulePriorityBypassableVpn

def vpnUidRangeRule (table : Nat) (uidStart uidEnd : Uid) (secure : Bool) : Rule :=
  lookupRule (vpnPriority secure) table {}
    (if secure then { protectedFromVpn := true }
      else { protectedFromVpn := true, explicitlySelected := true })
    iifLoopback none (uidAttr uidStart uidEnd)

def vpnSystemPermissionRule (netId table : Nat) (secure : Bool) : Rule :=
  lookupRule (vpnPriority secure) table
    { netId := netIdField netId, permission := Permission.system.bits }
    { netId := fwmarkNetIdMask, permission := Permission.system.bits } none none none

def explicitNetworkRule (netId table : Nat) (permission : Permission) (uidStart uidEnd : Uid) :
    Rule :=
  lookupRule rulePriorityExplicitNetwork table
    { netId := netIdField netId, explicitlySelected := true, permission := permission.bits }
    { netId := fwmarkNetIdMask, explicitlySelected := true, permission := permission.bits }
    iifLoopback none (uidAttr uidStart uidEnd)

def rootOverrideRule (interface : String) (table : Nat) : Rule :=
  lookupRule rulePriorityVpnOverrideOif table {} {} iifLoopback (some interface)
    (uidAttr uidRoot uidRoot)

def outputInterfaceRule (interface : String) (table : Nat) (permission : Permission)
    (uidStart uidEnd : Uid) : Rule :=
  lookupRule rulePriorityOutputInterface table { permission := permission.bits }
    { permission := permission.bits } iifLoopback (some interface) (uidAttr uidStart uidEnd)

def implicitNetworkRule (netId table : Nat) : Rule :=
  lookupRule rulePriorityImplicitNetwork table { netId := netIdField netId }
    { netId := fwmarkNetIdMask, explicitlySelected := true } iifLoopback none none

def vpnFallthroughRule (vpnNetId table : Nat) (permission : Permission) : Rule :=
  lookupRule rulePriorityVpnFallthrough table
    { netId := netIdField vpnNetId, permission := permission.bits }
    { netId := fwmarkNetIdMask, explicitlySelected := true, permission := permission.bits }
    none none none

def defaultNetworkRule (table : Nat) (permission : Permission) : Rule :=
  lookupRule rulePriorityDefaultNetwork table
    { netId := netIdField netIdUnset, permission := permission.bits }
    { netId := fwmarkNetIdMask, permission := permission.bits } iifLoopback none none

def tetheringRule (inputInterface : String) (table : Nat) : Rule :=
  lookupRule rulePriorityTethering table {} {} (some inputInterface) none none

def prohibitNonVpnRule (range : UidRangeParcel) : Rule :=
  ⟨rulePriorityProhibitNonVpn, .prohibit, rtTableUnspec, ({} : Fwmark).intValue,
    ({ protectedFromVpn := true } : Fwmark).intValue, iifLoopback, none,
    uidAttr range.start range.stop⟩

/-- The rules `Init` always installs. -/
def initRules (localNetId : Nat) : List Rule :=
  [lookupRule rulePriorityLegacySystem routeTableLegacySystem {} { explicitlySelected := true }
      none none none,
    lookupRule rulePriorityLegacyNetwork routeTableLegacyNetwork {} { explicitlySelected := true }
      none none none,
    lookupRule rulePriorityVpnOverrideSystem routeTableLegacySystem
      { permission := Permission.system.bits }
      { explicitlySelected := true, permission := Permission.system.bits } none none none,
    explicitNetworkRule localNetId routeTableLocalNetwork .none invalidUid invalidUid,
    lookupRule rulePriorityLocalNetwork routeTableLocalNetwork {} { explicitlySelected := true }
      none none none,
    ⟨rulePriorityUnreachable, .unreachable, rtTableUnspec, 0, 0, none, none, none⟩]

def incomingPacketMark (netId : Nat) (interface : String) (permission : Permission) : MarkRule :=
  ⟨interface,
    ({ netId := netIdField netId
       explicitlySelected := true
       protectedFromVpn := true
       permission := permission.bits } : Fwmark).intValue,
    ~~~Fwmark.getUidBillingMask⟩

/-! ### The rules of one interface -/

/-- The output rules; without a uid range there is one for root too. -/
def outputInterfaceRules (interface : String) (table : Nat) (permission : Permission)
    (uidStart uidEnd : Uid) : List Rule :=
  (if uidStart = invalidUid ∧ uidEnd = invalidUid then [rootOverrideRule interface table]
    else []) ++
    [outputInterfaceRule interface table permission uidStart uidEnd]

def localRules (interface : String) : List Rule :=
  outputInterfaceRules interface routeTableLocalNetwork .none invalidUid invalidUid

def physicalRules (netId : Nat) (interface : String) (table : Nat) (permission : Permission) :
    List Rule :=
  explicitNetworkRule netId table permission invalidUid invalidUid ::
    (outputInterfaceRules interface table permission invalidUid invalidUid ++
      if permission = .none then [implicitNetworkRule netId table] else [])

def virtualUidRules (netId : Nat) (interface : String) (table : Nat) (secure : Bool)
    (range : UidRangeParcel) : List Rule :=
  vpnUidRangeRule table range.start range.stop secure ::
    explicitNetworkRule netId table .none range.start range.stop ::
    outputInterfaceRules interface table .none range.start range.stop

/-- The rules of a VPN interface that have no uid range of the VPN. -/
def virtualNonUidRules (netId : Nat) (interface : String) (table : Nat) (secure : Bool) :
    List Rule :=
  [vpnOutputToLocalRule interface, vpnSystemPermissionRule netId table secure,
    explicitNetworkRule netId table .none uidRoot uidRoot]

/-! ## Numbered interfaces -/

def tableOf (idx : String → Nat) (interface : String) : Nat :=
  idx interface + routeTableOffsetFromIndex

/-- The state reports interfaces as `idx` numbers them. -/
structure Numbered (idx : String → Nat) (w : Routing) : Prop where
  index : ∀ i, w.ifIndex i = 0 ∨ w.ifIndex i = idx i
  table : ∀ i t, w.ifIndex i = 0 → w.sInterfaceToTable.find? i = some t →
    idx i ≠ 0 ∧ t = tableOf idx i

section

variable {idx : String → Nat} {w w' : Routing}

theorem Numbered.of_same (h : Numbered idx w) (hi : w'.ifIndex = w.ifIndex)
    (ht : w'.sInterfaceToTable = w.sInterfaceToTable) : Numbered idx w' :=
  ⟨hi ▸ h.index, hi ▸ ht ▸ h.table⟩

/-- `w'` differs from `w` in its table cache and its faults only. -/
structure SameKernel (w w' : Routing) : Prop where
  rules : w'.rules = w.rules
  mangle : w'.mangle = w.mangle

theorem SameKernel.refl (w : Routing) : SameKernel w w := ⟨rfl, rfl⟩

theorem getRouteTableForInterface_spec (interface : String) (h : Numbered idx w) :
    Numbered idx (getRouteTableForInterface interface w).2 ∧
      SameKernel w (getRouteTableForInterface interface w).2 ∧
      ((getRouteTableForInterface interface w).1 ≠ rtTableUnspec →
        idx interface ≠ 0 ∧
          (getRouteTableForInterface interface w).1 = tableOf idx interface) := by
  simp only [getRouteTableForInterface]
  split
  · rename_i hindex
    have hidx : w.ifIndex interface = idx interface := (h.index interface).resolve_left hindex
    have hpos : idx interface ≠ 0 := hidx ▸ hindex
    refine ⟨⟨h.index, fun i t hi ht => ?_⟩, ⟨rfl, rfl⟩, fun _ => ⟨hpos, by rw [hidx]; rfl⟩⟩
    rw [OrdMap.find?_insert] at ht
    split at ht
    · next heq => exact absurd (heq ▸ hi) hindex
    · exact h.table i t hi ht
  · rename_i hindex
    refine ⟨h, .refl w, fun hne => ?_⟩
    cases hf : w.sInterfaceToTable.find? interface with
    | none => rw [hf] at hne; exact absurd rfl hne
    | some t => exact h.table interface t (not_not.mp hindex) hf

variable {interface : String} {k : Nat → Call Routing} {add : Bool}

theorem withTable_spec (h : Numbered idx w) (hk : withTable interface k w = (0, w')) :
    idx interface ≠ 0 ∧ ∃ w1, Numbered idx w1 ∧ SameKernel w w1 ∧
      k (tableOf idx interface) w1 = (0, w') := by
  obtain ⟨hnum, hsame, htable⟩ := getRouteTableForInterface_spec interface h
  simp only [withTable] at hk
  split at hk
  · cases hk
  rename_i hne
  obtain ⟨hpos, heq⟩ := htable hne
  exact ⟨hpos, _, hnum, hsame, heq ▸ hk⟩

/-- What survives a call on the table of the interface, whatever the call returns. -/
theorem withTable_keeps {I : Routing → Prop} (hnum : ∀ w, I w → Numbered idx w)
    (hsame : ∀ w w', I w → Numbered idx w' → SameKernel w w' → I w')
    (hk : Call.Keeps I (k (tableOf idx interface))) :
    Call.Keeps I (withTable interface k) := by
  intro w hw
  obtain ⟨hnum', hkernel, htable⟩ := getRouteTableForInterface_spec interface (hnum w hw)
  simp only [withTable]
  split
  · exact hsame w _ hw hnum' hkernel
  rename_i hne
  rw [(htable hne).2]
  exact hk _ (hsame w _ hw hnum' hkernel)

theorem withTable_ok (hk : withTable interface k w = (0, w')) :
    ∃ table w1, k table w1 = (0, w') := by
  simp only [withTable] at hk
  split at hk
  · cases hk
  · exact ⟨_, _, hk⟩

/-! ## Scripts carried out by a call -/

/-- The scripts take the kernel of `w` to the kernel of `w'`, in each family. -/
structure Effect (es : List (Edit Rule)) (ms : List (Edit MarkRule)) (w w' : Routing) : Prop where
  rules : ∀ fam, runEdits Rule.selects es (w.rules fam) = some (w'.rules fam)
  marks : ∀ fam, (↑(w.mangle fam) + added ms : Multiset MarkRule) =
    ↑(w'.mangle fam) + deleted ms

theorem SameKernel.effect (h : SameKernel w w') : Effect [] [] w w' :=
  ⟨fun _ => by rw [h.rules]; rfl, fun _ => by rw [h.mangle]; rfl⟩

theorem Effect.trans {es es' : List (Edit Rule)} {ms ms' : List (Edit MarkRule)} {w'' : Routing}
    (h : Effect es ms w w') (h' : Effect es' ms' w' w'') :
    Effect (es ++ es') (ms ++ ms') w w'' := by
  refine ⟨fun fam => ?_, fun fam => ?_⟩
  · rw [runEdits_append, h.rules fam]
    exact h'.rules fam
  · calc (↑(w.mangle fam) + added (ms ++ ms') : Multiset MarkRule)
        = (↑(w.mangle fam) + added ms) + added ms' := by
          rw [added_append, add_assoc]
      _ = (↑(w'.mangle fam) + added ms') + deleted ms := by
          rw [h.marks fam, add_right_comm]
      _ = ↑(w''.mangle fam) + deleted (ms ++ ms') := by
          rw [h'.marks fam, deleted_append, add_assoc, add_comm (deleted ms)]

/-- A call that succeeds has carried out the scripts. -/
structure Performs (idx : String → Nat) (m : Call Routing) (es : List (Edit Rule))
    (ms : List (Edit MarkRule)) : Prop where
  spec : ∀ w w', Numbered idx w → m w = (0, w') → Numbered idx w' ∧ Effect es ms w w'

namespace Performs

variable {m k : Call Routing} {es es' : List (Edit Rule)} {ms ms' : List (Edit MarkRule)}

theorem done : Performs idx Call.done [] [] := by
  refine ⟨fun w w' hw h => ?_⟩
  cases done_ok.mp h
  exact ⟨hw, (SameKernel.refl w).effect⟩

theorem andThen (hm : Performs idx m es ms) (hk : Performs idx k es' ms') :
    Performs idx (m.andThen k) (es ++ es') (ms ++ ms') := by
  refine ⟨fun w w' hw h => ?_⟩
  obtain ⟨t, hmt, hkt⟩ := andThen_ok.mp h
  obtain ⟨ht, hwt⟩ := hm.spec w t hw hmt
  obtain ⟨hw', htw⟩ := hk.spec t w' ht hkt
  exact ⟨hw', hwt.trans htw⟩

theorem each {α : Type} {f : α → Call Routing} {es : α → List (Edit Rule)}
    {ms : α → List (Edit MarkRule)} (hf : ∀ a, Performs idx (f a) (es a) (ms a)) :
    ∀ as : List α, Performs idx (Call.each f as) (as.flatMap es) (as.flatMap ms)
  | [] => done
  | a :: as => (hf a).andThen (each hf as)

theorem eachRule {α : Type} {f : α → Call Routing} {add : Bool} {r : α → Rule}
    (hf : ∀ a, Performs idx (f a) [.ofAdd add (r a)] []) :
    ∀ as : List α, Performs idx (Call.each f as) ((as.map r).map (.ofAdd add)) []
  | [] => done
  | a :: as => (hf a).andThen (eachRule hf as)

theorem withTable {interface : String} {k : Nat → Call Routing}
    (hk : Performs idx (k (tableOf idx interface)) es ms) :
    Performs idx (withTable interface k) es ms := by
  refine ⟨fun w w' hw h => ?_⟩
  obtain ⟨_, w1, hw1, hsame, hk1⟩ := withTable_spec hw h
  obtain ⟨hw', heff⟩ := hk.spec w1 w' hw1 hk1
  exact ⟨hw', hsame.effect.trans heff⟩

end Performs

/-! ## Requests -/

theorem syscall_ok {effect : Call Routing} (h : syscall effect w = (0, w')) :
    ∃ fs, effect { w with faults := fs } = (0, w') := by
  rw [syscall] at h
  split at h
  · next hf => exact ⟨[], hf ▸ h⟩
  · next fs _ => exact ⟨fs, h⟩
  · cases h
  · cases h

theorem syscall_keeps {I : Routing → Prop} {effect : Call Routing}
    (hfaults : ∀ w fs, I w → I { w with faults := fs }) (h : Call.Keeps I effect) :
    Call.Keeps I (syscall effect) := by
  intro w hw
  rw [syscall]
  split
  · exact h w hw
  · exact h _ (hfaults w _ hw)
  · exact hfaults w _ hw
  · exact h _ (hfaults w _ hw)

/-- A rule request that succeeds adds the rule, or deletes one that the request
selects. -/
theorem sendRuleRequest_spec {r : Rule} {fam : Family} (hr : r.Masked)
    (h : sendRuleRequest (.ofAdd add) r.request fam w = (0, w')) :
    runEdits selects [.ofAdd add r] (w.rules fam) = some (w'.rules fam) ∧
      (∀ fam', fam' ≠ fam → w'.rules fam' = w.rules fam') ∧ w'.mangle = w.mangle ∧
      w'.ifIndex = w.ifIndex ∧ w'.sInterfaceToTable = w.sInterfaceToTable := by
  obtain ⟨fs, h⟩ := syscall_ok h
  have hfield : ∀ l : FibRules, w' = ({ w with faults := fs } : Routing).setRules fam l →
      w'.rules fam = l ∧ (∀ fam', fam' ≠ fam → w'.rules fam' = w.rules fam') ∧
        w'.mangle = w.mangle ∧ w'.ifIndex = w.ifIndex ∧
        w'.sInterfaceToTable = w.sInterfaceToTable := by
    rintro l rfl
    exact ⟨update_self .., fun fam' hne => update_of_ne hne .., rfl, rfl, rfl⟩
  cases add with
  | true =>
    have hcode : ((w.rules fam).newRule r.request).1 = 0 := congrArg fst h
    obtain ⟨hl, hrest⟩ := hfield ((w.rules fam).newRule r.request).2 (congrArg snd h).symm
    refine ⟨?_, hrest⟩
    rw [hl, FibRules.newRule_ok hcode, toRule_request hr]
    rfl
  | false =>
    have hcode : ((w.rules fam).delRule r.request).1 = 0 := congrArg fst h
    obtain ⟨hany, hdel⟩ := FibRules.delRule_ok hcode
    obtain ⟨hl, hrest⟩ := hfield ((w.rules fam).delRule r.request).2 (congrArg snd h).symm
    refine ⟨?_, hrest⟩
    rw [hl, hdel]
    exact congrArg (fun o : Option FibRules => o.bind (runEdits selects [])) (if_pos hany)

/-- Both uids or neither is `INVALID_UID`. -/
def uidsAgree (uidStart uidEnd : Uid) : Prop := uidStart = invalidUid ↔ uidEnd = invalidUid

section

variable {add : Bool} {priority table : Nat} {ruleType : RuleAction} {fwmark mask : BitVec 32}
  {iif oif : Option String} {uidStart uidEnd : Uid}

/-- `modifyIpRule` that succeeds got past its checks and sent both requests. -/
theorem modifyIpRule_inv
    (h : modifyIpRule (.ofAdd add) priority ruleType table fwmark mask iif oif
      uidStart uidEnd w = (0, w')) :
    fwmark &&& ~~~mask = 0 ∧ uidsAgree uidStart uidEnd ∧
      Call.each (sendRuleRequest (.ofAdd add)
        (request ⟨priority, ruleType, table, fwmark, mask, iif, oif,
          uidAttr uidStart uidEnd⟩)) afFamilies w = (0, w') := by
  rw [modifyIpRule] at h
  split at h
  · cases h
  rename_i hmask
  split at h
  · next hpad => exact absurd (congrArg fst h) hpad
  split at h
  · next hpad => exact absurd (congrArg fst h) hpad
  split at h
  · cases h
  rename_i huid
  split at h
  · cases h
  · exact ⟨not_not.mp hmask, iff_of_eq (not_not.mp huid), h⟩

/-- `modifyIpRule` that fails did nothing but send some of its requests. -/
theorem modifyIpRule_keeps {I : Routing → Prop} {verb : RuleVerb}
    (h : fwmark &&& ~~~mask = 0 → ∀ fam, Call.Keeps I (sendRuleRequest verb
      (request ⟨priority, ruleType, table, fwmark, mask, iif, oif, uidAttr uidStart uidEnd⟩)
      fam)) :
    Call.Keeps I (modifyIpRule verb priority ruleType table fwmark mask iif oif
      uidStart uidEnd) := by
  rw [modifyIpRule]
  split
  · exact keeps_fail _ _
  rename_i hmask
  split
  · exact keeps_fail _ _
  split
  · exact keeps_fail _ _
  split
  · exact keeps_fail _ _
  split
  · exact keeps_fail _ _
  · exact Call.Keeps.each (h (not_not.mp hmask)) _

theorem masked_of_check (h : fwmark &&& ~~~mask = 0) (uidRange : Option UidRangeParcel) :
    Rule.Masked ⟨priority, ruleType, table, fwmark, mask, iif, oif, uidRange⟩ := by
  intro (hz : mask = 0)
  rw [hz] at h
  exact BitVec.and_allOnes.symm.trans h

/-- `modifyIpRule` adds or deletes one rule in each family. -/
theorem modifyIpRule_performs :
    Performs idx (modifyIpRule (.ofAdd add) priority ruleType table fwmark mask
        iif oif uidStart uidEnd)
      [.ofAdd add ⟨priority, ruleType, table, fwmark, mask, iif, oif, uidAttr uidStart uidEnd⟩]
      [] := by
  refine ⟨fun w w' hw h => ?_⟩
  obtain ⟨hmask, _, hsend⟩ := modifyIpRule_inv h
  have hmasked : Rule.Masked ⟨priority, ruleType, table, fwmark, mask, iif, oif,
      uidAttr uidStart uidEnd⟩ := masked_of_check hmask _
  obtain ⟨w1, h4, hrest⟩ := each_ok_cons.mp hsend
  obtain ⟨w2, h6, hnil⟩ := each_ok_cons.mp hrest
  cases done_ok.mp hnil
  obtain ⟨hrun4, hother4, hm4, hi4, ht4⟩ := sendRuleRequest_spec hmasked h4
  obtain ⟨hrun6, hother6, hm6, hi6, ht6⟩ := sendRuleRequest_spec hmasked h6
  refine ⟨hw.of_same (hi6.trans hi4) (ht6.trans ht4), fun fam => ?_, fun fam => ?_⟩
  · cases fam with
    | inet => rw [hother6 .inet (by decide)]; exact hrun4
    | inet6 => rw [← hother4 .inet6 (by decide)]; exact hrun6
  · rw [hm6, hm4]
    rfl

end

/-- A mark command that succeeds adds or deletes the mark rule. -/
theorem sendMarkCommand_spec {m : MarkRule} {fam : Family}
    (h : sendMarkCommand add m fam w = (0, w')) :
    (↑(w.mangle fam) + added [.ofAdd add m] : Multiset MarkRule) =
        ↑(w'.mangle fam) + deleted [.ofAdd add m] ∧
      (∀ fam', fam' ≠ fam → w'.mangle fam' = w.mangle fam') ∧ w'.rules = w.rules ∧
      w'.ifIndex = w.ifIndex ∧ w'.sInterfaceToTable = w.sInterfaceToTable := by
  obtain ⟨fs, h⟩ := syscall_ok h
  have hfield : ∀ l, w' = ({ w with faults := fs } : Routing).setMangle fam l →
      w'.mangle fam = l ∧ (∀ fam', fam' ≠ fam → w'.mangle fam' = w.mangle fam') ∧
        w'.rules = w.rules ∧ w'.ifIndex = w.ifIndex ∧
        w'.sInterfaceToTable = w.sInterfaceToTable := by
    rintro l rfl
    exact ⟨update_self .., fun fam' hne => update_of_ne hne .., rfl, rfl, rfl⟩
  split at h
  · rename_i hadd
    obtain ⟨hl, hrest⟩ := hfield (w.mangle fam ++ [m]) (congrArg snd h).symm
    refine ⟨?_, hrest⟩
    rw [hl, hadd]
    exact (coe_add (w.mangle fam) [m]).trans (add_zero _).symm
  · rename_i hdel
    split at h
    · rename_i hmem
      obtain ⟨hl, hrest⟩ := hfield ((w.mangle fam).erase m) (congrArg snd h).symm
      refine ⟨?_, hrest⟩
      rw [hl, Bool.eq_false_iff.mpr hdel]
      show (↑(w.mangle fam) + 0 : Multiset MarkRule) = ↑((w.mangle fam).erase m) + {m}
      rw [add_zero, add_comm, ← coe_erase, singleton_add, cons_erase hmem]
    · cases h

/-- Both families were told. -/
theorem modifyIncomingPacketMark_inv {netId : Nat} {permission : Permission}
    (h : modifyIncomingPacketMark netId interface permission add w = (0, w')) :
    ∃ w1, sendMarkCommand add (incomingPacketMark netId interface permission)
        .inet w = (0, w1) ∧
      sendMarkCommand add (incomingPacketMark netId interface permission)
        .inet6 w1 = (0, w') := by
  have hcodes := congrArg fst h
  have hstate := congrArg snd h
  simp only [modifyIncomingPacketMark] at hcodes hstate
  split at hcodes
  · next hzero => exact ⟨_, Prod.ext hzero.1 rfl, Prod.ext hzero.2 hstate⟩
  · cases hcodes

theorem modifyIncomingPacketMark_performs (netId : Nat) (interface : String)
    (permission : Permission) (add : Bool) :
    Performs idx (modifyIncomingPacketMark netId interface permission add) []
      [.ofAdd add (incomingPacketMark netId interface permission)] := by
  refine ⟨fun w w' hw h => ?_⟩
  obtain ⟨w1, h4, h6⟩ := modifyIncomingPacketMark_inv h
  obtain ⟨hmark4, hother4, hr4, hi4, ht4⟩ := sendMarkCommand_spec h4
  obtain ⟨hmark6, hother6, hr6, hi6, ht6⟩ := sendMarkCommand_spec h6
  refine ⟨hw.of_same (hi6.trans hi4) (ht6.trans ht4), fun fam => ?_, fun fam => ?_⟩
  · rw [hr6, hr4]
    rfl
  · cases fam with
    | inet => rw [hother6 .inet (by decide)]; exact hmark4
    | inet6 => rw [← hother4 .inet6 (by decide)]; exact hmark6

/-! ## The families of rules -/

theorem fwmark_intValue_default : ({} : Fwmark).intValue = 0 := by decide

variable (idx)

theorem modifyExplicitNetworkRule_performs (netId table : Nat) (permission : Permission)
    (uidStart uidEnd : Uid) (add : Bool) :
    Performs idx
      (modifyExplicitNetworkRule netId table permission uidStart uidEnd add)
      [.ofAdd add (explicitNetworkRule netId table permission uidStart uidEnd)] [] :=
  modifyIpRule_performs

theorem modifyOutputInterfaceRules_performs (interface : String) (table : Nat)
    (permission : Permission) (uidStart uidEnd : Uid) (add : Bool) :
    Performs idx
      (modifyOutputInterfaceRules interface table permission uidStart uidEnd add)
      ((outputInterfaceRules interface table permission uidStart uidEnd).map (.ofAdd add)) [] := by
  simp only [modifyOutputInterfaceRules, outputInterfaceRules]
  split
  · rw [rootOverrideRule, lookupRule, fwmark_intValue_default]
    exact modifyIpRule_performs.andThen modifyIpRule_performs
  · exact Performs.done.andThen modifyIpRule_performs

theorem modifyVpnFallthroughRule_performs (vpnNetId : Nat) (interface : String)
    (permission : Permission) (add : Bool) :
    Performs idx
      (modifyVpnFallthroughRule (.ofAdd add) vpnNetId interface permission)
      [.ofAdd add (vpnFallthroughRule vpnNetId (tableOf idx interface) permission)] [] :=
  .withTable modifyIpRule_performs

theorem modifyDefaultNetwork_performs (interface : String) (permission : Permission) (add : Bool) :
    Performs idx (modifyDefaultNetwork (.ofAdd add) interface permission)
      [.ofAdd add (defaultNetworkRule (tableOf idx interface) permission)] [] :=
  .withTable modifyIpRule_performs

theorem modifyTetheredNetwork_performs (inputInterface outputInterface : String) (add : Bool) :
    Performs idx
      (modifyTetheredNetwork (.ofAdd add) inputInterface outputInterface)
      [.ofAdd add (tetheringRule inputInterface (tableOf idx outputInterface))] [] := by
  exact .withTable modifyIpRule_performs

theorem modifyRejectNonSecureNetworkRule_performs (uidRanges : UidRanges) (add : Bool) :
    Performs idx (modifyRejectNonSecureNetworkRule uidRanges add)
      ((uidRanges.getRanges.map prohibitNonVpnRule).map (.ofAdd add)) [] :=
  Performs.eachRule (fun _ => modifyIpRule_performs) _

/-! ### The rules of one interface -/

theorem modifyLocalNetwork_performs (netId : Nat) (interface : String) (add : Bool) :
    Performs idx (modifyLocalNetwork netId interface add)
      ((localRules interface).map (.ofAdd add))
      ([incomingPacketMark netId interface .none].map (.ofAdd add)) :=
  (modifyIncomingPacketMark_performs ..).andThen (modifyOutputInterfaceRules_performs ..)

theorem modifyPhysicalNetwork_performs (netId : Nat) (interface : String)
    (permission : Permission) (add : Bool) :
    Performs idx (modifyPhysicalNetwork netId interface permission add)
      ((physicalRules netId interface (tableOf idx interface) permission).map (.ofAdd add))
      ([incomingPacketMark netId interface permission].map (.ofAdd add)) := by
  refine .withTable ?_
  refine (modifyIncomingPacketMark_performs ..).andThen <|
    (modifyExplicitNetworkRule_performs ..).andThen <|
    (modifyOutputInterfaceRules_performs ..).andThen ?_
  split
  · exact modifyIpRule_performs
  · exact .done

theorem modifyVirtualNetwork_performs (netId : Nat) (interface : String) (uidRanges : UidRanges)
    (secure add nonUid : Bool) :
    Performs idx
      (modifyVirtualNetwork netId interface uidRanges secure add nonUid)
      ((uidRanges.getRanges.flatMap
          (virtualUidRules netId interface (tableOf idx interface) secure) ++
        if nonUid then virtualNonUidRules netId interface (tableOf idx interface) secure
        else []).map (.ofAdd add))
      ((if nonUid then [incomingPacketMark netId interface .none] else []).map (.ofAdd add)) := by
  have hranges : Performs idx (Call.each (fun range : UidRangeParcel =>
        (modifyVpnUidRangeRule (tableOf idx interface) range.start range.stop
          secure add).andThen <|
        (modifyExplicitNetworkRule netId (tableOf idx interface) .none range.start
          range.stop add).andThen <|
        modifyOutputInterfaceRules interface (tableOf idx interface) .none
          range.start range.stop add) uidRanges.getRanges)
      ((uidRanges.getRanges.flatMap
        (virtualUidRules netId interface (tableOf idx interface) secure)).map (.ofAdd add)) [] := by
    rw [List.map_flatMap]
    have hnil : (uidRanges.getRanges.flatMap fun _ => ([] : List (Edit MarkRule))) = [] := by simp
    rw [← hnil]
    exact Performs.each (fun _ => modifyIpRule_performs.andThen <|
      (modifyExplicitNetworkRule_performs ..).andThen (modifyOutputInterfaceRules_performs ..)) _
  refine .withTable ?_
  rw [List.map_append]
  refine hranges.andThen ?_
  split
  · exact (modifyIncomingPacketMark_performs ..).andThen <|
      modifyIpRule_performs.andThen <|
      modifyIpRule_performs.andThen (modifyExplicitNetworkRule_performs ..)
  · exact .done

end

end Netd
