import Netd.Policy.Controller
import Netd.Policy.Families
import Netd.Server.NetdNativeService

/-!
# Startup, rejected users and tethering

What the calls outside the controller do to the ledger. `Init` leaves a base of
`InitRule`s, even if it fails to configure the dummy network half way. Rejecting
users adds prohibit rules, one for each range, and takes them away again.
Tethering does not show in the policy.
-/

namespace Netd

open NetworkController List RouteController PrioList Call Rule Routing

/-! ## Startup -/

/-- A state while `Init` runs: no mark rules, and every rule satisfies `P`. -/
structure Starting (idx : String → Nat) (P : Rule → Prop) (w : Routing) : Prop where
  numbered : Numbered idx w
  no_marks : ∀ fam, w.mangle fam = []
  rules : ∀ fam, ∀ x ∈ (w.rules fam).toList, P x

section

variable {idx : String → Nat} {P : Rule → Prop} {w w' : Routing}

theorem Starting.of_same (h : Starting idx P w) (hnum : Numbered idx w')
    (hsame : SameKernel w w') : Starting idx P w' :=
  ⟨hnum, hsame.mangle ▸ h.no_marks, hsame.rules ▸ h.rules⟩

theorem syscall_starting {effect : Call Routing} (h : Call.Keeps (Starting idx P) effect) :
    Call.Keeps (Starting idx P) (syscall effect) :=
  syscall_keeps (fun _ _ hw => hw.of_same (hw.numbered.of_same rfl rfl) ⟨rfl, rfl⟩) h

/-- A new rule, if it is accepted. -/
theorem newRule_starting {priority table : Nat} {ruleType : RuleAction} {fwmark mask : BitVec 32}
    {iif oif : Option String} {uidStart uidEnd : Uid}
    (hP : P ⟨priority, ruleType, table, fwmark, mask, iif, oif, uidAttr uidStart uidEnd⟩) :
    Call.Keeps (Starting idx P) (modifyIpRule .newRule priority ruleType table
      fwmark mask iif oif uidStart uidEnd) := by
  refine modifyIpRule_keeps fun hmask fam => syscall_starting fun w hw => ?_
  refine ⟨hw.numbered.of_same rfl rfl, hw.no_marks, fun fam' x hx => ?_⟩
  dsimp only [setRules] at hx
  by_cases hfam : fam' = fam
  · rw [hfam, Function.update_self] at hx
    by_cases hcode : ((w.rules fam).newRule (request ⟨priority, ruleType, table, fwmark, mask,
        iif, oif, uidAttr uidStart uidEnd⟩)).1 = 0
    · rw [FibRules.newRule_ok hcode, toRule_request (masked_of_check hmask _)] at hx
      rcases mem_insert.mp hx with rfl | hold
      · exact hP
      · exact hw.rules fam x hold
    · rw [FibRules.newRule_failed hcode] at hx
      exact hw.rules fam x hx
  · rw [Function.update_of_ne hfam] at hx
    exact hw.rules fam' x hx

theorem flushRules_starting (hw : Numbered idx w) (hmarks : ∀ fam, w.mangle fam = [])
    (h : flushRules w = (0, w')) : Starting idx (fun x => x.priority = 0) w' := by
  obtain ⟨w1, h4, hrest⟩ := each_ok_cons.mp h
  obtain ⟨w2, h6, hnil⟩ := each_ok_cons.mp hrest
  cases done_ok.mp hnil
  obtain ⟨fs4, h4⟩ := syscall_ok h4
  obtain ⟨fs6, h6⟩ := syscall_ok h6
  cases h4
  cases h6
  refine ⟨hw.of_same rfl rfl, hmarks, fun fam x hx => ?_⟩
  cases fam with
  | inet =>
    have hx' : x ∈ ((w.rules .inet).filter fun r => r.priority = 0).toList := hx
    exact of_decide_eq_true (mem_filter.mp hx').2
  | inet6 =>
    have hx' : x ∈ ((w.rules .inet6).filter fun r => r.priority = 0).toList := hx
    exact of_decide_eq_true (mem_filter.mp hx').2

theorem configureDummyNetwork_starting :
    Call.Keeps (Starting idx (InitRule idx)) configureDummyNetwork := by
  have hdone : Call.Keeps (Starting idx (InitRule idx)) (syscall done) :=
    syscall_starting (keeps_done _)
  have hrule : ∀ x ∈ outputInterfaceRules dummyInterfaceName (tableOf idx dummyInterfaceName) .none
      invalidUid invalidUid, InitRule idx x := fun x hx => .inr (.inr hx)
  have hroot := hrule _ (mem_append_left _ mem_cons_self)
  have hout := hrule _ (mem_append_right _ mem_cons_self)
  have hrules : Call.Keeps (Starting idx (InitRule idx))
      (modifyOutputInterfaceRules dummyInterfaceName
        (tableOf idx dummyInterfaceName) .none invalidUid invalidUid true) := by
    rw [modifyOutputInterfaceRules, if_pos ⟨rfl, rfl⟩]
    exact (newRule_starting hroot).andThen (newRule_starting hout)
  refine withTable_keeps (fun _ hw => hw.numbered) (fun _ _ hw => hw.of_same) ?_
  exact hdone.andThen (hrules.andThen (hdone.andThen hdone))

theorem init_starting (hw : Numbered idx w) (hmarks : ∀ fam, w.mangle fam = [])
    (h : init localNetId w = (0, w')) : Starting idx (InitRule idx) w' := by
  obtain ⟨w1, hflush, hrest⟩ := andThen_ok.mp h
  have hzero := flushRules_starting hw hmarks hflush
  have hw1 : Starting idx (InitRule idx) w1 :=
    ⟨hzero.numbered, hzero.no_marks, fun fam x hx => .inl (hzero.rules fam x hx)⟩
  have hinit : ∀ x ∈ initRules localNetId, InitRule idx x := fun x hx => .inr (.inl hx)
  simp only [initRules, forall_mem_cons, not_mem_nil, IsEmpty.forall_iff,
    implies_true, and_true] at hinit
  obtain ⟨hsys, hnet, hoverride, hlocal, hlocalNet, hunreachable⟩ := hinit
  have hlegacy : Call.Keeps (Starting idx (InitRule idx)) addLegacyRouteRules :=
    (newRule_starting hsys).andThen
      ((newRule_starting hnet).andThen (newRule_starting hoverride))
  have hlocalRules : Call.Keeps (Starting idx (InitRule idx))
      (addLocalNetworkRules localNetId) :=
    (newRule_starting hlocal).andThen (newRule_starting hlocalNet)
  have hstop : Call.Keeps (Starting idx (InitRule idx)) addUnreachableRule :=
    newRule_starting hunreachable
  exact (hlegacy.andThen (hlocalRules.andThen (hstop.andThen
    configureDummyNetwork_starting.ignore))).run hw1 hrest

theorem Starting.initBase (h : Starting idx (InitRule idx) w) : InitBase idx (policy w) :=
  fun fam x hx => h.rules fam x (mem_policy_rule.mp hx).1

theorem Starting.books (h : Starting idx (InitRule idx) w) (T : Rule → Prop) :
    Books idx T (policy w) 0 .new w := by
  refine ⟨wellFormed_new, fun k n hk hflag => ?_, wellFormed_new.toShape, ⟨h.numbered, ?_⟩, ?_,
    fun k n hk => ?_, fun k n hk htype => ?_, ⟨.new dummyNetId, rfl, mem_cons_self⟩⟩
  · rcases getNetworkLocked_new hk with ⟨_, rfl⟩ | ⟨_, rfl⟩
    · cases hflag
    · cases hflag
  · intro fam x hx ht
    exact absurd ht ((h.rules fam x hx).priority_ne (by decide))
  · intro fam
    rw [rejectItems, Multiset.map_zero, add_zero]
    exact (add_zero _).symm
  · rcases getNetworkLocked_new hk with ⟨_, rfl⟩ | ⟨_, rfl⟩
    · trivial
    · trivial
  · rcases getNetworkLocked_new hk with ⟨_, rfl⟩ | ⟨_, rfl⟩
    · rcases htype with hd | hd <;> cases hd
    · rcases htype with hd | hd <;> cases hd

end

/-! ## Rejected users -/

section

variable {idx : String → Nat} {T : Rule → Prop} {base : Family → Multiset Item}
  {rejects : Multiset UidRangeParcel} {c : NetworkController} {w w' : Routing}

def IsProhibit : Item → Prop
  | .rule x => x.priority = rulePriorityProhibitNonVpn
  | .mark _ => False

theorem Ledger.clear_prohibit (h : Ledger idx T base rejects c w) (hbase : InitBase idx base)
    (fam : Family) : ∀ x ∈ base fam + controllerItems idx c, ¬ IsProhibit x := by
  intro x hx hprohibit
  cases x with
  | mark m => exact hprohibit
  | rule x =>
    rcases Multiset.mem_add.mp hx with hinit | hctrl
    · exact (hbase fam x hinit).priority_ne (by decide) hprohibit
    · exact (h.controllerRule hctrl).priority_ne.1 hprohibit

theorem rejectItems_add (A B : Multiset UidRangeParcel) :
    rejectItems (A + B) = rejectItems A + rejectItems B :=
  Multiset.map_add ..

theorem rejectItems_coe (ranges : List UidRangeParcel) :
    rejectItems ↑ranges = items (ranges.map prohibitNonVpnRule) [] := by
  rw [rejectItems, items, Multiset.map_coe, map_map, map_nil, Multiset.coe_nil, add_zero]
  rfl

def rangeOfProhibit : Item → Option UidRangeParcel
  | .rule x => x.uidRange
  | .mark _ => none

theorem filterMap_rejectItems (h : ∀ r ∈ rejects, r.start ≠ invalidUid) :
    (rejectItems rejects).filterMap rangeOfProhibit = rejects := by
  induction rejects using Multiset.induction_on with
  | empty => rfl
  | cons r A ih =>
    have hr : rangeOfProhibit (.rule (prohibitNonVpnRule r)) = some r :=
      uidAttr_of_ne (h r (Multiset.mem_cons_self r A))
    have hrest := ih fun s hs => h s (Multiset.mem_cons_of_mem hs)
    rw [rejectItems] at hrest ⊢
    rw [Multiset.map_cons, Multiset.filterMap_cons_some _ _ _ hr, hrest]

theorem requestsOwn_prohibit (ranges : List UidRangeParcel) :
    RequestsOwn IsProhibit (ranges.map prohibitNonVpnRule) := by
  refine ⟨fun d hd => ?_, fun d hd x hsel => ?_⟩
  · obtain ⟨r, _, rfl⟩ := mem_map.mp hd
    exact show (12500 : Nat) ≠ 18000 by decide
  · obtain ⟨r, _, rfl⟩ := mem_map.mp hd
    exact selects_priority hsel

/-- A request for the prohibit rule of a range selects no rule of another range. -/
theorem prohibitNonVpnRule_unique {ranges : List UidRangeParcel} {d x : Rule}
    (hranges : ∀ r ∈ ranges, r.start ≠ invalidUid) (hd : d ∈ ranges.map prohibitNonVpnRule)
    (hx : Item.rule x ∈ rejectItems rejects) (h : d.selects x = true) : x = d := by
  obtain ⟨r, hr, rfl⟩ := mem_map.mp hd
  obtain ⟨r', _, heq⟩ := Multiset.mem_map.mp hx
  cases heq
  have huid := (selects_iff.mp h).2.2.2.2.2.2 r (uidAttr_of_ne (hranges r hr))
  have hfield : uidAttr r'.start r'.stop = uidAttr r.start r.stop :=
    huid.trans (uidAttr_of_ne (hranges r hr)).symm
  rw [prohibitNonVpnRule, prohibitNonVpnRule, hfield]

variable {ranges : UidRanges} {add : Bool} {T' : Rule → Prop}

theorem modifyRejectNonSecureNetworkRule_ranges (hr : ∀ r ∈ ranges.bag, r.NotSentinel)
    (h : modifyRejectNonSecureNetworkRule ranges add w = (0, w')) :
    ∀ r ∈ ranges.getRanges, r.start ≠ invalidUid := by
  have hagree : ∀ r ∈ ranges.getRanges, uidsAgree r.start r.stop := by
    refine each_ok_forall (fun r s s' hs => ?_) h
    exact (modifyIpRule_inv hs).2.1
  exact fun r hmem => (hr r hmem).start_ne (hagree r hmem)

section

variable (h : Books idx T base rejects c w)
include h

theorem Books.reject {rejects' : Multiset UidRangeParcel} (hw : Sound idx T w')
    (hbal : ∀ fam, policy w' fam = base fam + controllerItems idx c + rejectItems rejects') :
    Books idx T base rejects' c w' :=
  ⟨h.wellFormed, h.flags, h.ledger.shape, hw, hbal, h.ledger.ranges_ok, h.ledger.has_tables,
    h.ledger.has_dummy⟩

theorem addUsersToRejectNonSecureNetworkRule_books
    (hm : addUsersToRejectNonSecureNetworkRule ranges w = (0, w')) :
    Books idx T base (rejects + ranges.bag) c w' := by
  have hperf : Performs idx (addUsersToRejectNonSecureNetworkRule ranges)
      ((ranges.getRanges.map prohibitNonVpnRule).map .add) [] :=
    modifyRejectNonSecureNetworkRule_performs idx ranges true
  have hrep : Replaces policy (Sound idx T) (fun _ => False) (rejectItems rejects) _ _ :=
    hperf.installsRules (requestsOwn_prohibit ranges.getRanges).not_tethering
  obtain ⟨hw, hbal⟩ := hrep.spec (fun fam => base fam + controllerItems idx c) w w'
    (fun _ _ _ hf => hf) h.ledger.sound h.ledger.balance hm
  rw [← rejectItems_coe, ← rejectItems_add] at hbal
  exact h.reject hw hbal

/-- Users are let go. A deletion that succeeds finds its rule, so the ranges were
rejected. -/
theorem removeUsersFromRejectNonSecureNetworkRule_books (hbase : InitBase idx base)
    (hrejects : ∀ r ∈ rejects, r.start ≠ invalidUid) (hr : ∀ r ∈ ranges.bag, r.NotSentinel)
    (hm : removeUsersFromRejectNonSecureNetworkRule ranges w = (0, w')) :
    Books idx T base (rejects - ranges.bag) c w' := by
  have hperf : Performs idx (removeUsersFromRejectNonSecureNetworkRule ranges)
      ((ranges.getRanges.map prohibitNonVpnRule).map .del) [] :=
    modifyRejectNonSecureNetworkRule_performs idx ranges false
  have hne := modifyRejectNonSecureNetworkRule_ranges hr hm
  have hclear := h.ledger.clear_prohibit hbase
  have hle := hperf.removed_le (requestsOwn_prohibit ranges.getRanges)
    (fun d hd x hx => prohibitNonVpnRule_unique hne hd hx) hclear h.ledger.sound
    h.ledger.balance hm
  have hthere : ranges.bag ≤ rejects := by
    rw [← rejectItems_coe] at hle
    have hmap := Multiset.filterMap_le_filterMap rangeOfProhibit hle
    rwa [filterMap_rejectItems hrejects, filterMap_rejectItems hne] at hmap
  have hsplit : rejectItems rejects = rejectItems (rejects - ranges.bag) +
      items (ranges.getRanges.map prohibitNonVpnRule) [] := by
    rw [← rejectItems_coe, ← rejectItems_add]
    exact congrArg rejectItems (tsub_add_cancel_of_le hthere).symm
  have hrep := hperf.removesRules (T := T) (P := rejectItems (rejects - ranges.bag))
    (requestsOwn_prohibit ranges.getRanges) fun d hd x hx =>
      prohibitNonVpnRule_unique hne hd (hsplit ▸ hx)
  obtain ⟨hw, hbal⟩ := hrep.spec (fun fam => base fam + controllerItems idx c) w w' hclear
    h.ledger.sound (fun fam => hsplit ▸ h.ledger.balance fam) hm
  exact h.reject hw hbal

end

/-! ## Tethering -/

theorem Sound.mono (h : Sound idx T w) (hT : ∀ x, T x → T' x) : Sound idx T' w :=
  ⟨h.numbered, fun fam x hx ht => hT x (h.tethering fam x hx ht)⟩

theorem Books.mono (h : Books idx T base rejects c w) (hT : ∀ x, T x → T' x) :
    Books idx T' base rejects c w :=
  ⟨h.wellFormed, h.flags, h.ledger.shape, h.ledger.sound.mono hT, h.ledger.balance,
    h.ledger.ranges_ok, h.ledger.has_tables, h.ledger.has_dummy⟩

/-- Adding or deleting a tethering rule leaves the other rules alone. -/
theorem tetheringEdit_spec {r : Rule} {l l' : FibRules} (hr : r.priority = rulePriorityTethering)
    (h : runEdits selects [.ofAdd add r] l = some l') :
    (l'.bag.filter fun x => x.priority ≠ rulePriorityTethering) =
        (l.bag.filter fun x => x.priority ≠ rulePriorityTethering) ∧
      ∀ x ∈ l'.toList, (add = true ∧ x = r) ∨ x ∈ l.toList := by
  cases add with
  | true =>
    cases h
    refine ⟨?_, fun x hx => (mem_insert.mp hx).imp_left fun heq => ⟨rfl, heq⟩⟩
    rw [bag_insert, Multiset.filter_cons_of_neg
      (p := fun x : Rule => x.priority ≠ rulePriorityTethering) _ (not_not.mpr hr)]
  | false =>
    obtain ⟨hany, herase⟩ := runEdits_del_cons h
    cases herase
    refine ⟨?_, fun x hx => .inr (mem_of_mem_eraseFirst hx)⟩
    obtain ⟨a, ha⟩ := Option.isSome_iff_exists.mp (List.find?_isSome.mpr (any_eq_true.mp hany))
    have hprio := (selects_priority (List.find?_some ha)).trans hr
    rw [bag_eraseFirst ha, Multiset.filter_cons_of_neg
      (p := fun x : Rule => x.priority ≠ rulePriorityTethering) _ (not_not.mpr hprio)]

/-- Tethering calls only change tethering rules. -/
theorem modifyTetheredNetwork_books {fromIface toIface : String} (h : Books idx T base rejects c w)
    (hT : add = true → ∀ t, T (tetheringRule fromIface t))
    (hm : modifyTetheredNetwork (.ofAdd add) fromIface toIface w = (0, w')) :
    Books idx T base rejects c w' := by
  obtain ⟨hnum, heff⟩ := (modifyTetheredNetwork_performs idx fromIface toIface add).spec w w'
    h.ledger.sound.numbered hm
  have hedit := fun fam => tetheringEdit_spec rfl (heff.rules fam)
  refine h.of_steady ⟨⟨hnum, fun fam x hx ht => ?_⟩, fun fam => ?_⟩
  · rcases (hedit fam).2 x hx with ⟨hadd, rfl⟩ | hold
    · exact hT hadd _
    · exact h.ledger.sound.tethering fam x hold ht
  · rw [policy, policy, (hedit fam).1]
    have hmarks := heff.marks fam
    rw [Edit.added, Edit.deleted, add_zero, add_zero] at hmarks
    rw [hmarks]

end

end Netd
