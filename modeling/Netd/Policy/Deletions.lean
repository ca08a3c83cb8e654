import Netd.Policy.Calls
import Netd.Policy.Primitives

/-!
# Removals that return 0

The lemmas of `Policy.Calls` say what a call has done if it returned 0. Here it is said when a
removal does return 0. The state has to be *poised*: no fault is ahead, every rule passes the
checks of a request for it, and the tables the call looks up are found.
-/

namespace Netd

open RouteController List Item Multiset Call Errno

/-- Calls for the interfaces in `B` can be expected to succeed. -/
structure Poised (B : String → Prop) (w : Routing) : Prop where
  calm : Calm w
  tidy : Tidy w
  located : ∀ j, B j → Located j w

/-- The scripts of deletions can be carried out, in each family. -/
structure Deletable (ds : List Rule) (ms : List MarkRule) (w : Routing) : Prop where
  sendable : ∀ d ∈ ds, d.Sendable
  rules : ∀ fam, ∃ l, runEdits Rule.selects (ds.map .del) (w.rules fam) = some l
  marks : ∀ fam, (ms : Multiset MarkRule) ≤ ↑(w.mangle fam)

/-- The call carries out deletions that can be carried out, and returns 0. -/
structure Completes (idx : String → Nat) (B : String → Prop) (m : Call Routing) (ds : List Rule)
    (ms : List MarkRule) : Prop where
  performs : Performs idx m (ds.map .del) (ms.map .del)
  keeps : Call.Keeps (Poised B) m
  returns : ∀ w, Numbered idx w → Poised B w → Deletable ds ms w → (m w).1 = 0

section

variable {idx : String → Nat} {B : String → Prop} {w : Routing} {ds ds' : List Rule}
  {ms ms' : List MarkRule} {i : String} {permission : Permission}

/-! ## What keeps a state poised -/

theorem poised_of_keeps {m : Call Routing} (hcalm : Call.Keeps Calm m) (htidy : Call.Keeps Tidy m)
    (hlocated : ∀ j, Call.Keeps (Located j) m) : Call.Keeps (Poised B) m := by
  intro w hw
  exact ⟨hcalm w hw.calm, htidy w hw.tidy, fun j hj => hlocated j w (hw.located j hj)⟩

theorem modifyIpRule_poised {verb : RuleVerb} {priority table : Nat} {ruleType : RuleAction}
    {fwmark mask : BitVec 32} {iif oif : Option String} {uidStart uidEnd : Uid}
    (hp : priority ≠ rulePriorityTethering) :
    Call.Keeps (Poised B)
      (modifyIpRule verb priority ruleType table fwmark mask iif oif uidStart uidEnd) :=
  poised_of_keeps ((respects_calm fun _ => True).modifyIpRule hp).keeps
    ((respects_tidy fun _ => True).modifyIpRule hp).keeps
    fun j => ((respects_located j).modifyIpRule hp).keeps

theorem modifyIncomingPacketMark_poised {netId : Nat} {add : Bool} :
    Call.Keeps (Poised B) (modifyIncomingPacketMark netId i permission add) :=
  poised_of_keeps (modifyIncomingPacketMark_sim (respects_calm fun _ => True)).keeps
    (modifyIncomingPacketMark_sim (respects_tidy fun _ => True)).keeps
    fun j => (modifyIncomingPacketMark_sim (respects_located j)).keeps

theorem Poised.lookup (h : Poised B w) (i : String) :
    Poised B (getRouteTableForInterface i w).2 := by
  obtain ⟨hkernel, _, hfaults⟩ := getRouteTableForInterface_same i w
  refine ⟨?_, ?_, fun j hj => (h.located j hj).lookup i⟩
  · rw [Calm, hfaults]
    exact h.calm
  · rw [Tidy, hkernel.rules]
    exact h.tidy

/-! ## Deletions one after the other -/

theorem Deletable.left (h : Deletable (ds ++ ds') (ms ++ ms') w) : Deletable ds ms w := by
  refine ⟨fun d hd => h.sendable d (mem_append_left _ hd), fun fam => ?_, fun fam => ?_⟩
  · obtain ⟨l, hrun⟩ := h.rules fam
    rw [map_append, runEdits_append] at hrun
    obtain ⟨l1, hrun1, _⟩ := Option.bind_eq_some_iff.mp hrun
    exact ⟨l1, hrun1⟩
  · have hle := h.marks fam
    rw [← coe_add] at hle
    exact (le_add_right _ _).trans hle

theorem Deletable.right {w1 : Routing} (h : Deletable (ds ++ ds') (ms ++ ms') w)
    (heff : Effect (ds.map .del) (ms.map .del) w w1) : Deletable ds' ms' w1 := by
  refine ⟨fun d hd => h.sendable d (mem_append_right _ hd), fun fam => ?_, fun fam => ?_⟩
  · obtain ⟨l, hrun⟩ := h.rules fam
    rw [map_append, runEdits_append, heff.rules fam] at hrun
    exact ⟨l, hrun⟩
  · have hle := h.marks fam
    have hmarks := heff.marks fam
    rw [Edit.added_map_del, Edit.deleted_map_del, add_zero] at hmarks
    rw [hmarks, ← coe_add, add_comm (ms : Multiset MarkRule)] at hle
    exact Multiset.add_le_add_iff_right.mp hle

namespace Completes

variable {m k : Call Routing}

theorem done : Completes idx B done [] [] := ⟨.done, keeps_done _, fun _ _ _ _ => rfl⟩

theorem andThen (hm : Completes idx B m ds ms) (hk : Completes idx B k ds' ms') :
    Completes idx B (m.andThen k) (ds ++ ds') (ms ++ ms') := by
  refine ⟨?_, hm.keeps.andThen hk.keeps, fun w hw hpoised hdel => ?_⟩
  · rw [map_append, map_append]
    exact hm.performs.andThen hk.performs
  · have hcode := hm.returns w hw hpoised hdel.left
    obtain ⟨hw1, heff⟩ := hm.performs.spec w (m w).2 hw (Prod.ext hcode rfl)
    rw [Call.andThen, if_pos hcode]
    exact hk.returns _ hw1 (hm.keeps w hpoised) (hdel.right heff)

theorem each {α : Type} {f : α → Call Routing} {ds : α → List Rule} {as : List α}
    (hf : ∀ a ∈ as, Completes idx B (f a) (ds a) []) :
    Completes idx B (each f as) (as.flatMap ds) [] := by
  induction as with
  | nil => exact done
  | cons a as ih =>
    exact (hf a mem_cons_self).andThen (ih fun b hb => hf b (mem_cons_of_mem a hb))

theorem withTable (hi : B i) {k : Nat → Call Routing} (ds : Nat → List Rule)
    (hk : ∀ table, Completes idx B (k table) (ds table) ms) :
    Completes idx B (RouteController.withTable i k) (ds (tableOf idx i)) ms := by
  refine ⟨.withTable (hk _).performs, fun w hw => ?_, fun w hw hpoised hdel => ?_⟩
  · simp only [RouteController.withTable]
    split
    · exact hw.lookup i
    · exact (hk _).keeps _ (hw.lookup i)
  obtain ⟨hnum, hsame, htable⟩ := getRouteTableForInterface_spec i hw
  have hfound := hpoised.located i hi
  simp only [RouteController.withTable]
  rw [if_neg hfound, (htable hfound).2]
  refine (hk _).returns _ hnum (hpoised.lookup i) ⟨hdel.sendable, fun fam => ?_, fun fam => ?_⟩
  · rw [hsame.rules]
    exact hdel.rules fam
  · rw [hsame.mangle]
    exact hdel.marks fam

end Completes

/-! ## One request -/

theorem Calm.syscall_code (h : Calm w) {effect : Call Routing} {e : Int}
    (heffect : ∀ fs, (effect { w with faults := fs }).1 = e) :
    (Routing.syscall effect w).1 = e := by
  obtain ⟨fs, _, hrun⟩ := h.syscall effect
  rw [hrun]
  exact heffect fs

theorem sendRuleRequest_deletes {r : Rule} {fam : Family} (hw : Calm w)
    (hany : (w.rules fam).toList.any r.selects = true) :
    (sendRuleRequest (.ofAdd false) r.request fam w).1 = 0 := by
  refine hw.syscall_code fun fs => ?_
  exact congrArg Prod.fst (if_pos hany)

theorem sendRuleRequest_each_deletes {r : Rule} (hr : r.Sendable) (hw : Calm w)
    (hany : ∀ fam, (w.rules fam).toList.any r.selects = true) :
    (each (sendRuleRequest (.ofAdd false) r.request) afFamilies w).1 = 0 := by
  have hmask : r.Masked := masked_of_check hr.mark r.uidRange
  have hcalm : Call.Keeps Calm (sendRuleRequest (.ofAdd false) r.request .inet) :=
    syscall_calm fun _ => rfl
  have hcode := sendRuleRequest_deletes (r := r) hw (hany .inet)
  rcases hrun : sendRuleRequest (.ofAdd false) r.request .inet w with ⟨e, w1⟩
  rw [hrun] at hcode
  subst hcode
  have hother := (sendRuleRequest_spec hmask hrun).2.1
  have hcode1 : (sendRuleRequest (.ofAdd false) r.request .inet6 w1).1 = 0 := by
    refine sendRuleRequest_deletes (hcalm.run hw hrun) ?_
    rw [hother .inet6 (by decide)]
    exact hany .inet6
  rw [afFamilies, each, andThen, hrun, if_pos rfl, each, andThen, if_pos hcode1]
  rfl

section

variable {priority table : Nat} {ruleType : RuleAction} {fwmark mask : BitVec 32}
  {iif oif : Option String} {uidStart uidEnd : Uid}

/-- A deletion that passes the checks is sent to both families. -/
theorem modifyIpRule_of_sendable
    (hsend : Rule.Sendable ⟨priority, ruleType, table, fwmark, mask, iif, oif,
      uidAttr uidStart uidEnd⟩) (huid : uidStart = invalidUid → uidEnd = invalidUid) :
    modifyIpRule (.ofAdd false) priority ruleType table fwmark mask iif oif uidStart uidEnd =
      each (sendRuleRequest (.ofAdd false) (Rule.request ⟨priority, ruleType, table, fwmark,
        mask, iif, oif, uidAttr uidStart uidEnd⟩)) afFamilies := by
  have hmask : ¬ (fwmark &&& ~~~mask ≠ 0) := not_not.mpr hsend.mark
  have hiif : ¬ ((padInterfaceName iif).1 ≠ 0) := not_not.mpr hsend.iif
  have hoif : ¬ ((padInterfaceName oif).1 ≠ 0) := not_not.mpr hsend.oif
  have hagree : ¬ ((uidStart = invalidUid) ≠ (uidEnd = invalidUid)) := by
    refine not_not.mpr (propext ⟨huid, fun hend => ?_⟩)
    by_contra hstart
    exact hsend.uids ⟨uidStart, uidEnd⟩ (if_pos hstart) hend
  have hverb : ¬ (table = rtTableUnspec ∧ ruleType = .toTbl ∧ RuleVerb.ofAdd false ≠ .delRule) :=
    fun h => h.2.2 rfl
  rw [modifyIpRule, if_neg hmask, if_neg hiif, if_neg hoif, if_neg hagree, if_neg hverb]
  rfl

theorem modifyIpRule_completes (hp : priority ≠ rulePriorityTethering)
    (huid : uidStart = invalidUid → uidEnd = invalidUid) :
    Completes idx B
      (modifyIpRule (.ofAdd false) priority ruleType table fwmark mask iif oif uidStart uidEnd)
      [⟨priority, ruleType, table, fwmark, mask, iif, oif, uidAttr uidStart uidEnd⟩] [] := by
  refine ⟨modifyIpRule_performs, modifyIpRule_poised hp, fun w _ hpoised hdel => ?_⟩
  have hsend := hdel.sendable _ mem_cons_self
  rw [modifyIpRule_of_sendable hsend huid]
  refine sendRuleRequest_each_deletes hsend hpoised.calm fun fam => ?_
  obtain ⟨l, hrun⟩ := hdel.rules fam
  exact (runEdits_del_cons hrun).1

end

theorem sendMarkCommand_deletes {m : MarkRule} {fam : Family} (hw : Calm w)
    (hmem : m ∈ w.mangle fam) : (sendMarkCommand false m fam w).1 = 0 := by
  refine hw.syscall_code fun fs => ?_
  rw [if_neg Bool.false_ne_true, if_pos hmem]

theorem modifyIncomingPacketMark_completes {netId : Nat} :
    Completes idx B (modifyIncomingPacketMark netId i permission false) []
      [incomingPacketMark netId i permission] := by
  refine ⟨modifyIncomingPacketMark_performs netId i permission false,
    modifyIncomingPacketMark_poised, fun w _ hpoised hdel => ?_⟩
  have hmem : ∀ fam, incomingPacketMark netId i permission ∈ w.mangle fam := fun fam =>
    mem_coe.mp (mem_of_le (hdel.marks fam) (mem_cons_self))
  have hcode4 := sendMarkCommand_deletes hpoised.calm (hmem .inet)
  rw [modifyIncomingPacketMark_eq]
  refine if_pos ⟨hcode4, sendMarkCommand_deletes (sendMarkCommand_calm _ _ _ w hpoised.calm) ?_⟩
  obtain ⟨_, hother, _⟩ := sendMarkCommand_spec (Prod.ext hcode4 rfl :
    sendMarkCommand false (incomingPacketMark netId i permission) .inet w = (0, _))
  rw [hother .inet6 (by decide)]
  exact hmem .inet6

/-! ## The functions of RouteController -/

variable {netId vpnNetId table : Nat} {i : String} {permission : Permission} {secure : Bool}
  {uidStart uidEnd : Uid} {vpns : List Nat} {u : UidRanges}

section

variable (huid : uidStart = invalidUid → uidEnd = invalidUid)
include huid

theorem modifyExplicitNetworkRule_completes :
    Completes idx B (modifyExplicitNetworkRule netId table permission uidStart uidEnd false)
      [explicitNetworkRule netId table permission uidStart uidEnd] [] :=
  modifyIpRule_completes (by decide) huid

theorem modifyOutputInterfaceRules_completes :
    Completes idx B (modifyOutputInterfaceRules i table permission uidStart uidEnd false)
      (outputInterfaceRules i table permission uidStart uidEnd) [] := by
  have hroot : Completes idx B
      (modifyIpRule (.ofAdd false) rulePriorityVpnOverrideOif .toTbl table 0 0 iifLoopback (some i)
        uidRoot uidRoot) [rootOverrideRule i table] [] := by
    exact modifyIpRule_completes (by decide) fun h => absurd h (by decide)
  simp only [modifyOutputInterfaceRules, outputInterfaceRules]
  split
  · exact hroot.andThen (modifyIpRule_completes (by decide) huid)
  · exact Completes.done.andThen (modifyIpRule_completes (by decide) huid)

end

theorem modifyLocalNetwork_completes :
    Completes idx B (modifyLocalNetwork netId i false) (localRules i)
      [incomingPacketMark netId i .none] :=
  modifyIncomingPacketMark_completes.andThen (modifyOutputInterfaceRules_completes fun _ => rfl)

theorem modifyPhysicalNetwork_completes (hi : B i) :
    Completes idx B (modifyPhysicalNetwork netId i permission false)
      (physicalRules netId i (tableOf idx i) permission)
      [incomingPacketMark netId i permission] := by
  refine .withTable hi (physicalRules netId i · permission) fun table => ?_
  refine modifyIncomingPacketMark_completes.andThen <|
    (modifyExplicitNetworkRule_completes fun _ => rfl).andThen <|
    (modifyOutputInterfaceRules_completes fun _ => rfl).andThen ?_
  split
  · exact modifyIpRule_completes (by decide) fun _ => rfl
  · exact .done

theorem modifyVirtualNetwork_completes (hi : B i) (hu : ∀ r ∈ u.getRanges, r.start ≠ invalidUid) :
    Completes idx B (modifyVirtualNetwork netId i u secure false true)
      (u.getRanges.flatMap (virtualUidRules netId i (tableOf idx i) secure) ++
        virtualNonUidRules netId i (tableOf idx i) secure) [incomingPacketMark netId i .none] := by
  refine .withTable hi (fun table => u.getRanges.flatMap (virtualUidRules netId i table secure) ++
    virtualNonUidRules netId i table secure) fun table =>
      (Completes.each fun r hr => ?_).andThen ?_
  · have huid : r.start = invalidUid → r.stop = invalidUid := fun h => absurd h (hu r hr)
    exact (modifyIpRule_completes vpnPriority_ne_tethering huid).andThen <|
      (modifyExplicitNetworkRule_completes huid).andThen (modifyOutputInterfaceRules_completes huid)
  · rw [if_pos rfl]
    have hlocal :
        Completes idx B (modifyVpnOutputToLocalRule i false) [vpnOutputToLocalRule i] [] := by
      exact modifyIpRule_completes (by decide) fun _ => rfl
    exact modifyIncomingPacketMark_completes.andThen <| hlocal.andThen <|
      (modifyIpRule_completes vpnPriority_ne_tethering fun _ => rfl).andThen <|
      modifyExplicitNetworkRule_completes fun h => absurd h (by decide)

theorem removeVirtualNetworkFallthrough_completes (hi : B i) :
    Completes idx B (removeVirtualNetworkFallthrough vpnNetId i permission)
      [vpnFallthroughRule vpnNetId (tableOf idx i) permission] [] := by
  rw [removeVirtualNetworkFallthrough, modifyVpnFallthroughRule]
  refine .withTable hi ([vpnFallthroughRule vpnNetId · permission]) fun _ => ?_
  exact modifyIpRule_completes (by decide) fun _ => rfl

theorem removeFromDefault_completes (hi : B i) :
    Completes idx B (removeFromDefault api vpns i permission)
      (defaultRules vpns (tableOf idx i) permission) [] := by
  have hdefault : Completes idx B (removeInterfaceFromDefaultNetwork i permission)
      [defaultNetworkRule (tableOf idx i) permission] [] := by
    rw [removeInterfaceFromDefaultNetwork, modifyDefaultNetwork]
    refine .withTable hi ([defaultNetworkRule · permission]) fun _ => ?_
    exact modifyIpRule_completes (by decide) fun _ => rfl
  rw [defaultRules, map_eq_flatMap]
  exact hdefault.andThen (.each fun vpn _ => removeVirtualNetworkFallthrough_completes hi)

end

/-! ## Deletions from a policy -/

def Fit (idx : String → Nat) (T : Rule → Prop) (B : String → Prop) (w : Routing) : Prop :=
  Sound idx T w ∧ Poised B w

def Item.rule? : Item → Option Rule
  | .rule r => some r
  | .mark _ => none

def Item.mark? : Item → Option MarkRule
  | .rule _ => none
  | .mark m => some m

section

variable {idx : String → Nat} {T : Rule → Prop} {B : String → Prop} {w : Routing} {ds : List Rule}
  {ms : List MarkRule} {own : Item → Prop} {P : Multiset Item} {m : Call Routing}

theorem Fit.idx_ne {i : String} (h : Fit idx T B w) (hi : B i) : idx i ≠ 0 :=
  ((getRouteTableForInterface_spec i h.1.numbered).2.2 (h.2.located i hi)).1

theorem filterMap_none {α β : Type} (M : Multiset α) :
    M.filterMap (fun _ => (none : Option β)) = 0 := by
  induction M using Multiset.induction_on with
  | empty => rfl
  | cons m M ih => rwa [filterMap_cons_none _ _ rfl]

theorem filterMap_rule (A : Multiset Rule) (M : Multiset MarkRule) :
    (A.map rule + M.map mark).filterMap rule? = A := by
  rw [Multiset.filterMap_add, Multiset.filterMap_map, Multiset.filterMap_map]
  exact (congrArg (_ + ·) (filterMap_none M)).trans ((add_zero _).trans (filterMap_some A))

theorem filterMap_mark (A : Multiset Rule) (M : Multiset MarkRule) :
    (A.map rule + M.map mark).filterMap mark? = M := by
  rw [Multiset.filterMap_add, Multiset.filterMap_map, Multiset.filterMap_map]
  exact (congrArg (· + _) (filterMap_none A)).trans ((zero_add _).trans (filterMap_some M))

theorem le_of_items_le_policy {fam : Family} (h : items ds ms ≤ policy w fam) :
    (ds : Multiset Rule) ≤ (w.rules fam).bag ∧ (ms : Multiset MarkRule) ≤ ↑(w.mangle fam) := by
  have hitems : items ds ms =
      (ds : Multiset Rule).map rule + (ms : Multiset MarkRule).map mark := rfl
  have hrules := filterMap_le_filterMap rule? h
  have hmarks := filterMap_le_filterMap mark? h
  rw [hitems, policy, filterMap_rule, filterMap_rule] at hrules
  rw [hitems, policy, filterMap_mark, filterMap_mark] at hmarks
  exact ⟨hrules.trans (filter_le _ _), hmarks⟩

/-- Deletions can be carried out when the rules are there and no request selects another rule of the
owner. -/
theorem deletable_of_policy {R : Family → Multiset Item} (htidy : Tidy w)
    (hds : ∀ d ∈ ds, d.priority ≠ 0) (hown : RequestsOwn own ds)
    (huniq : ∀ d ∈ ds, ∀ x, rule x ∈ P → d.selects x = true → x = d)
    (hle : items ds ms ≤ P) (hR : ∀ fam, ∀ x ∈ R fam, ¬ own x)
    (hv : ∀ fam, policy w fam = R fam + P) : Deletable ds ms w := by
  have hpolicy : ∀ fam, items ds ms ≤ policy w fam := by
    intro fam
    rw [hv fam]
    exact hle.trans (le_add_left _ _)
  refine ⟨fun d hd => ?_, fun fam => ?_, fun fam => (le_of_items_le_policy (hpolicy fam)).2⟩
  · have hmem := mem_of_le (hpolicy .inet) (mem_items_rule.mpr hd)
    exact (htidy .inet d (mem_policy_rule.mp hmem).1).resolve_left (hds d hd)
  · exact exists_runEdits_dels (fun d _ => Rule.selects_self d)
      (le_of_items_le_policy (hpolicy fam)).1 fun d hd x hx hsel =>
        huniq d hd x (hown.mem_footprint hR (hv fam) hd hx hsel) hsel

/-- Deletions take their items out of the policy, when no request selects another rule of the
owner. -/
theorem Completes.achieves (h : Completes idx B m ds ms) (hds : ∀ d ∈ ds, d.priority ≠ 0)
    (hown : RequestsOwn own ds)
    (huniq : ∀ d ∈ ds, ∀ x, rule x ∈ P + items ds ms → d.selects x = true → x = d) :
    Achieves policy (Fit idx T B) own (P + items ds ms) P m := by
  refine ⟨(h.performs.removes hown huniq).and_keeps h.keeps, fun R w hR hw hv => ?_⟩
  exact h.returns w hw.1.numbered hw.2 (deletable_of_policy hw.2.tidy hds hown huniq
    (le_add_left _ _) hR hv)

/-- The same when the rules are about an interface. -/
theorem Completes.achieves_about {i : String} (h : Completes idx B m ds ms)
    (habout : ∀ d ∈ ds, d.About idx i)
    (huniq : ∀ d ∈ ds, ∀ x, rule x ∈ P + items ds ms → d.selects x = true → x = d) :
    Achieves policy (Fit idx T B) (About idx i) (P + items ds ms) P m :=
  h.achieves (fun d hd => (habout d hd).1) (requestsOwn_about habout) huniq

/-! ## Removals of one interface -/

variable {netId vpn : Nat} {i : String} {permission : Permission} {secure : Bool} {vpns : List Nat}
  {u : UidRanges}

theorem removeFromDefault_achieves (hi : B i) (hP : BesideDefault idx i P) :
    Achieves policy (Fit idx T B) (About idx i) (P + defaultItems idx i vpns permission) P
      (removeFromDefault api vpns i permission) :=
  .of_fact (fun _ hw => hw.idx_ne hi) fun hidx =>
    (removeFromDefault_completes hi).achieves_about (fun _ hd => about_defaultRules hidx hd)
      fun _ hd _ hx => (hP.add besideDefault_defaultItems).unique hd hx

theorem removeVirtualNetworkFallthrough_achieves (hi : B i) (hP : BesideDefault idx i P) :
    Achieves policy (Fit idx T B) (About idx i)
      (P + items [vpnFallthroughRule vpn (tableOf idx i) permission] []) P
      (removeVirtualNetworkFallthrough vpn i permission) := by
  have hmem : ∀ {d}, d ∈ [vpnFallthroughRule vpn (tableOf idx i) permission] →
      d ∈ defaultRules [vpn] (tableOf idx i) permission := mem_cons_of_mem _
  refine .of_fact (fun _ hw => hw.idx_ne hi) fun hidx =>
    (removeVirtualNetworkFallthrough_completes hi).achieves_about
      (fun _ hd => about_defaultRules hidx (hmem hd)) fun d hd x hx hsel => ?_
  refine (hP.add fun x hx => ?_).unique (hmem hd) hx hsel
  exact .inr ⟨[vpn], permission, hmem (mem_items_rule.mp hx)⟩

theorem modifyPhysicalNetwork_achieves (hi : B i) :
    Achieves policy (Fit idx T B) (About idx i) (physicalItems idx netId i permission) 0
      (modifyPhysicalNetwork netId i permission false) := by
  refine .of_fact (fun _ hw => hw.idx_ne hi) fun hidx => ?_
  have hrem : Achieves policy (Fit idx T B) (About idx i)
      (0 + physicalItems idx netId i permission) 0
      (modifyPhysicalNetwork netId i permission false) :=
    (modifyPhysicalNetwork_completes hi).achieves_about (fun d hd => about_physicalRules hidx hd)
      fun d hd x hx => physicalRules_unique (fun x hx => absurd hx (notMem_zero _)) hd hx
  rwa [zero_add] at hrem

theorem modifyVirtualNetwork_achieves (hi : B i) (hu : ∀ r ∈ u.bag, r.start ≠ invalidUid) :
    Achieves policy (Fit idx T B) (About idx i)
      (virtualUidItems idx netId i secure u.bag + virtualNonUidItems idx netId i secure) 0
      (modifyVirtualNetwork netId i u secure false true) := by
  refine .of_fact (fun _ hw => hw.idx_ne hi) fun hidx => ?_
  rw [virtualItems_eq, ← zero_add (items _ _)]
  refine (modifyVirtualNetwork_completes hi hu).achieves_about
    (fun d hd => (vpnRule_of_mem_rules hu hd).about hidx) fun d hd x hx hsel => ?_
  exact VpnRule.unique (vpnRule_of_mem_rules hu hd)
    (vpnRule_of_mem_rules hu (mem_items_rule.mp hx)) hsel

theorem removeInterfaceFromLocalNetwork_achieves :
    Achieves policy (Fit idx T B) (About idx i) (localItems netId i) 0
      (removeInterfaceFromLocalNetwork netId i) := by
  have hrem : Achieves policy (Fit idx T B) (About idx i) (0 + localItems netId i) 0
      (removeInterfaceFromLocalNetwork netId i) := by
    refine modifyLocalNetwork_completes.achieves_about (fun d hd => about_localRules hd)
      fun d hd x hx => ?_
    exact eq_of_selects_of_nodup localRules_nodup hd (mem_items_rule.mp hx)
  rwa [zero_add] at hrem

/-! ### Routes and tethering -/

theorem flushRoutes_returns (hw : Calm w) (hi : Located i w) : (flushRoutes i w).1 = 0 := by
  have hcalm : Calm (getRouteTableForInterface i w).2 := by
    rw [Calm, (getRouteTableForInterface_same i w).2.2]
    exact hw
  have hcode : (sendRouteRequest (getRouteTableForInterface i w).2).1 = 0 :=
    hcalm.syscall_code fun _ => rfl
  simp only [flushRoutes, withTable]
  rw [if_neg hi, if_pos hcode]

theorem sendRuleRequest_code {r : Rule} {fam : Family} (hw : Calm w) :
    (sendRuleRequest (.ofAdd false) r.request fam w).1 = 0 ∨
      (sendRuleRequest (.ofAdd false) r.request fam w).1 = -enoent := by
  by_cases hany : (w.rules fam).toList.any r.selects = true
  · exact .inl (sendRuleRequest_deletes hw hany)
  refine .inr (hw.syscall_code fun fs => ?_)
  exact congrArg Prod.fst (if_neg hany)

theorem clearTetheringLoop_code (hname : (padInterfaceName (some i)).1 = 0) (fuel : Nat)
    (hw : Calm w) : (clearTetheringLoop i fuel w).1 = -enoent := by
  induction fuel generalizing w with
  | zero => rfl
  | succ fuel ih =>
    have hsend : Rule.Sendable ⟨rulePriorityTethering, .toTbl, 0, 0, 0, some i, none,
        uidAttr invalidUid invalidUid⟩ :=
      ⟨show (0 : BitVec 32) &&& ~~~0 = 0 by decide, hname, rfl, fun u hu => by cases hu⟩
    have hdel : modifyIpRule .delRule rulePriorityTethering .toTbl 0 0 0 (some i) none invalidUid
          invalidUid = _ := modifyIpRule_of_sendable hsend fun _ => rfl
    have hcode : (modifyIpRule .delRule rulePriorityTethering .toTbl 0 0 0 (some i) none
          invalidUid invalidUid w).1 = 0 ∨
        (modifyIpRule .delRule rulePriorityTethering .toTbl 0 0 0 (some i) none
          invalidUid invalidUid w).1 = -enoent := by
      rw [hdel, afFamilies, each, andThen]
      split
      · rw [each, andThen]
        split
        · exact .inl rfl
        · exact sendRuleRequest_code (syscall_calm (fun _ => rfl) w hw)
      · exact sendRuleRequest_code hw
    have hcalm : Calm (modifyIpRule .delRule rulePriorityTethering .toTbl 0 0 0 (some i)
        none invalidUid invalidUid w).2 :=
      (modifyIpRule_sim fun hsend fam => (respects_calm fun _ => True).rule _ _ fam hsend
        fun _ => ⟨i, trivial, rfl⟩).keeps w hw
    simp only [clearTetheringLoop]
    split
    · exact ih hcalm
    · next hne => exact hcode.resolve_left hne

end

end Netd
