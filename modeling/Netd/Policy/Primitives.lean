import Netd.Policy.Edits
import Netd.Server.Lookups

/-!
# What the system calls keep

Every function of `RouteController` is built from a few primitives. `Respects A R` says that these
respect a relation `R` between routing states, for the interfaces in `A`. Then every call of the
routing layer for an interface in `A` respects it too (`Respects.api`).
-/

namespace Netd

open RouteController Call Function PrioList Rule FibRules Errno
open Call (Sim Both)

/-- The rule passes the checks of `modifyIpRule`. -/
structure Rule.Sendable (r : Rule) : Prop where
  mark : r.fwmark &&& ~~~r.mask = 0
  iif : (padInterfaceName r.iif).1 = 0
  oif : (padInterfaceName r.oif).1 = 0
  uids : ∀ u, r.uidRange = some u → u.stop ≠ invalidUid

/-- The primitives respect `R`, for the interfaces in `A`. -/
structure Respects (A : String → Prop) (R : Routing → Routing → Prop) : Prop where
  rules : ∀ w w', R w w' → w'.rules = w.rules
  tables : ∀ w w', R w w' → w'.sInterfaceToTable = w.sInterfaceToTable
  lookup : ∀ i w w', A i → R w w' →
    (getRouteTableForInterface i w).1 = (getRouteTableForInterface i w').1 ∧
      R (getRouteTableForInterface i w).2 (getRouteTableForInterface i w').2
  forget : ∀ i w w', A i → R w w' →
    R { w with sInterfaceToTable := w.sInterfaceToTable.erase i }
      { w' with sInterfaceToTable := w'.sInterfaceToTable.erase i }
  /-- A request for a tethering rule is one for an input interface in `A`. -/
  rule : ∀ (verb : RuleVerb) (r : Rule) (fam : Family), r.Sendable →
    (r.priority = rulePriorityTethering → ∃ i, A i ∧ r.iif = some i) →
    Sim R (sendRuleRequest verb r.request fam) (sendRuleRequest verb r.request fam)
  mark : ∀ add m fam, Sim R (sendMarkCommand add m fam) (sendMarkCommand add m fam)
  route : Sim R sendRouteRequest sendRouteRequest

section

variable {A : String → Prop} {R : Routing → Routing → Prop} {verb : RuleVerb}
  {priority table : Nat} {ruleType : RuleAction} {fwmark mask : BitVec 32}
  {iif oif : Option String} {uidStart uidEnd : Uid}

/-! ## The functions of RouteController -/

/-- The checks say that the rule is one that can be sent. -/
theorem sendable_of_checks (hmask : fwmark &&& ~~~mask = 0) (hiif : (padInterfaceName iif).1 = 0)
    (hoif : (padInterfaceName oif).1 = 0) (huid : uidsAgree uidStart uidEnd) :
    Rule.Sendable ⟨priority, ruleType, table, fwmark, mask, iif, oif, uidAttr uidStart uidEnd⟩ := by
  refine ⟨hmask, hiif, hoif, fun u (hu : uidAttr uidStart uidEnd = some u) => ?_⟩
  rw [uidAttr] at hu
  split at hu
  · rename_i hne
    cases hu
    exact fun hend => hne (huid.mpr hend)
  · cases hu

theorem modifyIpRule_sim (hsend : Rule.Sendable ⟨priority, ruleType, table, fwmark, mask, iif, oif,
        uidAttr uidStart uidEnd⟩ → ∀ fam,
      Sim R (sendRuleRequest verb (request ⟨priority, ruleType, table, fwmark, mask, iif, oif,
          uidAttr uidStart uidEnd⟩) fam)
        (sendRuleRequest verb (request ⟨priority, ruleType, table, fwmark, mask, iif, oif,
          uidAttr uidStart uidEnd⟩) fam)) :
    Sim R (modifyIpRule verb priority ruleType table fwmark mask iif oif uidStart uidEnd)
      (modifyIpRule verb priority ruleType table fwmark mask iif oif uidStart uidEnd) := by
  refine .ite (fun _ => sim_fail _) fun hmask => ?_
  refine .ite (fun _ => sim_fail _) fun hiif => ?_
  refine .ite (fun _ => sim_fail _) fun hoif => ?_
  refine .ite (fun _ => sim_fail _) fun huid => ?_
  refine .ite (fun _ => sim_fail _) fun _ => ?_
  exact .each fun fam _ => hsend (sendable_of_checks (not_not.mp hmask) (not_not.mp hiif)
    (not_not.mp hoif) (iff_of_eq (not_not.mp huid))) fam

theorem withTable_sim (h : Respects A R) {i : String} (hi : A i) {k : Nat → Call Routing}
    (hk : ∀ table, Sim R (k table) (k table)) : Sim R (withTable i k) (withTable i k) := by
  intro w w' hw
  obtain ⟨htable, hstate⟩ := h.lookup i w w' hi hw
  simp only [withTable, ← htable]
  split
  · exact ⟨rfl, hstate⟩
  · exact hk _ _ _ hstate

/-- A rule that is no tethering rule. -/
theorem Respects.modifyIpRule (h : Respects A R) (hp : priority ≠ rulePriorityTethering) : Sim R
      (RouteController.modifyIpRule verb priority ruleType table fwmark mask iif oif uidStart
        uidEnd)
      (RouteController.modifyIpRule verb priority ruleType table fwmark mask iif oif uidStart
        uidEnd) :=
  modifyIpRule_sim fun hsend fam => h.rule verb _ fam hsend fun heq => absurd heq hp

variable {netId vpnNetId : Nat} {i : String} {permission : Permission} {add secure nonUid : Bool}
  {uidRanges : UidRanges}

/-- The two mark commands and the code made of theirs. -/
theorem modifyIncomingPacketMark_eq (w : Routing) :
    modifyIncomingPacketMark netId i permission add w =
      (if (sendMarkCommand add (incomingPacketMark netId i permission) .inet w).1 = 0 ∧
          (sendMarkCommand add (incomingPacketMark netId i permission) .inet6
            (sendMarkCommand add (incomingPacketMark netId i permission) .inet w).2).1 = 0 then 0
        else -eremoteio,
        (sendMarkCommand add (incomingPacketMark netId i permission) .inet6
          (sendMarkCommand add (incomingPacketMark netId i permission) .inet w).2).2) :=
  rfl

theorem modifyIncomingPacketMark_sim (h : Respects A R) :
    Sim R (modifyIncomingPacketMark netId i permission add)
      (modifyIncomingPacketMark netId i permission add) := by
  intro w w' hw
  obtain ⟨hcode4, hstate4⟩ := h.mark add (incomingPacketMark netId i permission) .inet w w' hw
  obtain ⟨hcode6, hstate6⟩ := h.mark add (incomingPacketMark netId i permission) .inet6 _ _ hstate4
  rw [modifyIncomingPacketMark_eq, modifyIncomingPacketMark_eq, hcode4, hcode6]
  exact ⟨rfl, hstate6⟩

theorem modifyExplicitNetworkRule_sim (h : Respects A R) :
    Sim R (modifyExplicitNetworkRule netId table permission uidStart uidEnd add)
      (modifyExplicitNetworkRule netId table permission uidStart uidEnd add) :=
  h.modifyIpRule (by decide)

theorem modifyOutputInterfaceRules_sim (h : Respects A R) :
    Sim R (modifyOutputInterfaceRules i table permission uidStart uidEnd add)
      (modifyOutputInterfaceRules i table permission uidStart uidEnd add) :=
  (Sim.ite (fun _ => h.modifyIpRule (by decide)) fun _ => sim_done).andThen
    (h.modifyIpRule (by decide))

theorem vpnPriority_ne_tethering :
    (if secure then rulePrioritySecureVpn else rulePriorityBypassableVpn) ≠
      rulePriorityTethering := by
  cases secure <;> decide

section

variable (h : Respects A R)
include h

theorem modifyLocalNetwork_sim :
    Sim R (modifyLocalNetwork netId i add) (modifyLocalNetwork netId i add) :=
  (modifyIncomingPacketMark_sim h).andThen (modifyOutputInterfaceRules_sim h)

theorem modifyPhysicalNetwork_sim (hi : A i) : Sim R (modifyPhysicalNetwork netId i permission add)
      (modifyPhysicalNetwork netId i permission add) :=
  withTable_sim h hi fun _ => (modifyIncomingPacketMark_sim h).andThen <|
    (modifyExplicitNetworkRule_sim h).andThen <| (modifyOutputInterfaceRules_sim h).andThen <|
    .ite (fun _ => h.modifyIpRule (by decide)) fun _ => sim_done

theorem modifyVirtualNetwork_sim (hi : A i) :
    Sim R (modifyVirtualNetwork netId i uidRanges secure add nonUid)
      (modifyVirtualNetwork netId i uidRanges secure add nonUid) := by
  refine withTable_sim h hi fun _ => (Sim.each fun range _ => ?_).andThen <|
    .ite (fun _ => ?_) fun _ => sim_done
  · exact (h.modifyIpRule vpnPriority_ne_tethering).andThen <|
      (modifyExplicitNetworkRule_sim h).andThen (modifyOutputInterfaceRules_sim h)
  · exact (modifyIncomingPacketMark_sim h).andThen <| (h.modifyIpRule (by decide)).andThen <|
      (h.modifyIpRule vpnPriority_ne_tethering).andThen (modifyExplicitNetworkRule_sim h)

theorem modifyDefaultNetwork_sim (hi : A i) :
    Sim R (modifyDefaultNetwork verb i permission) (modifyDefaultNetwork verb i permission) :=
  withTable_sim h hi fun _ => h.modifyIpRule (by decide)

theorem modifyVpnFallthroughRule_sim (hi : A i) :
    Sim R (modifyVpnFallthroughRule verb vpnNetId i permission)
      (modifyVpnFallthroughRule verb vpnNetId i permission) :=
  withTable_sim h hi fun _ => h.modifyIpRule (by decide)

theorem modifyRejectNonSecureNetworkRule_sim :
    Sim R (modifyRejectNonSecureNetworkRule uidRanges add)
      (modifyRejectNonSecureNetworkRule uidRanges add) :=
  .each fun _ _ => h.modifyIpRule (by decide)

theorem modifyTetheredNetwork_sim {o : String} (hi : A i) (ho : A o) :
    Sim R (modifyTetheredNetwork verb i o) (modifyTetheredNetwork verb i o) :=
  withTable_sim h ho fun _ => modifyIpRule_sim fun hsend fam =>
    h.rule verb _ fam hsend fun _ => ⟨i, hi, rfl⟩

theorem modifyRoute_sim {tableType : TableType} (hi : tableType = .interface → A i) :
    Sim R (modifyRoute add i tableType) (modifyRoute add i tableType) := by
  have hreq : Sim R
      (fun w => if (sendRouteRequest w).1 ≠ 0 ∧
          ¬ (add = true ∧ (sendRouteRequest w).1 = -eexist) then
        ((sendRouteRequest w).1, (sendRouteRequest w).2) else (0, (sendRouteRequest w).2))
      (fun w => if (sendRouteRequest w).1 ≠ 0 ∧
          ¬ (add = true ∧ (sendRouteRequest w).1 = -eexist) then
        ((sendRouteRequest w).1, (sendRouteRequest w).2) else (0, (sendRouteRequest w).2)) := by
    intro w w' hw
    obtain ⟨hcode, hstate⟩ := h.route w w' hw
    dsimp only
    rw [← hcode]
    split
    · exact ⟨rfl, hstate⟩
    · exact ⟨rfl, hstate⟩
  exact .ite (fun htype => withTable_sim h (hi htype) fun _ => hreq) fun _ => hreq

theorem flushRoutes_sim (hi : A i) : Sim R (flushRoutes i) (flushRoutes i) := by
  refine withTable_sim h hi fun _ w w' hw => ?_
  obtain ⟨hcode, hstate⟩ := h.route w w' hw
  dsimp only
  rw [← hcode]
  split
  · exact ⟨rfl, h.forget i _ _ hi hstate⟩
  · exact ⟨rfl, hstate⟩

theorem clearTetheringLoop_sim (hi : A i) (fuel : Nat) :
    Sim R (clearTetheringLoop i fuel) (clearTetheringLoop i fuel) := by
  induction fuel with
  | zero => exact sim_fail _
  | succ fuel ih =>
    intro w w' hw
    have hdel : Sim R
        (modifyIpRule .delRule rulePriorityTethering .toTbl 0 0 0 (some i) none invalidUid
          invalidUid)
        (modifyIpRule .delRule rulePriorityTethering .toTbl 0 0 0 (some i) none invalidUid
          invalidUid) :=
      modifyIpRule_sim fun hsend fam => h.rule .delRule _ fam hsend fun _ => ⟨i, hi, rfl⟩
    obtain ⟨hcode, hstate⟩ := hdel w w' hw
    simp only [clearTetheringLoop, ← hcode]
    split
    · exact ih _ _ hstate
    · exact ⟨rfl, hstate⟩

theorem clearTetheringRules_sim (hi : A i) :
    Sim R (clearTetheringRules i) (clearTetheringRules i) := by
  intro w w' hw
  simp only [clearTetheringRules, h.rules w w' hw]
  obtain ⟨hcode, hstate⟩ := clearTetheringLoop_sim h hi ((w.rules .inet).toList.length + 1) w w' hw
  rw [← hcode]
  split
  · exact ⟨rfl, hstate⟩
  · exact ⟨rfl, hstate⟩

theorem Respects.api : RouteApi.Sim A R api api where
  getIfIndex i w w' hw := by
    show getIfIndex i w = getIfIndex i w'
    rw [getIfIndex, getIfIndex, h.tables w w' hw]
  addInterfaceToLocalNetwork _ _ := modifyLocalNetwork_sim h
  removeInterfaceFromLocalNetwork _ _ := modifyLocalNetwork_sim h
  addInterfaceToPhysicalNetwork _ _ _ hi := modifyPhysicalNetwork_sim h hi
  removeInterfaceFromPhysicalNetwork _ _ _ hi := (modifyPhysicalNetwork_sim h hi).andThen <|
    (flushRoutes_sim h hi).andThen (clearTetheringRules_sim h hi)
  addInterfaceToVirtualNetwork _ _ _ _ hi := modifyVirtualNetwork_sim h hi
  removeInterfaceFromVirtualNetwork _ _ _ _ hi :=
    (modifyVirtualNetwork_sim h hi).andThen (flushRoutes_sim h hi)
  modifyPhysicalNetworkPermission _ _ _ _ hi :=
    (modifyPhysicalNetwork_sim h hi).andThen (modifyPhysicalNetwork_sim h hi)
  addUsersToVirtualNetwork _ _ _ _ hi := modifyVirtualNetwork_sim h hi
  removeUsersFromVirtualNetwork _ _ _ _ hi := modifyVirtualNetwork_sim h hi
  addInterfaceToDefaultNetwork _ _ hi := modifyDefaultNetwork_sim h hi
  removeInterfaceFromDefaultNetwork _ _ hi := modifyDefaultNetwork_sim h hi
  addVirtualNetworkFallthrough _ _ _ hi := modifyVpnFallthroughRule_sim h hi
  removeVirtualNetworkFallthrough _ _ _ hi := modifyVpnFallthroughRule_sim h hi
  modifyRoute _ _ _ hi := modifyRoute_sim h hi

end

end

/-! ## Invariants of runs with failures -/

section

variable {A : String → Prop} {I : Routing → Prop}

theorem Respects.of_keeps (lookup : ∀ i w, A i → I w → I (getRouteTableForInterface i w).2)
    (forget : ∀ i w, A i → I w → I { w with sInterfaceToTable := w.sInterfaceToTable.erase i })
    (rule : ∀ (verb : RuleVerb) (r : Rule) (fam : Family), r.Sendable →
      (r.priority = rulePriorityTethering → ∃ i, A i ∧ r.iif = some i) →
      Call.Keeps I (sendRuleRequest verb r.request fam))
    (mark : ∀ add m fam, Call.Keeps I (sendMarkCommand add m fam))
    (route : Call.Keeps I sendRouteRequest) : Respects A (Both I) where
  rules _ _ h := by rw [h.1]
  tables _ _ h := by rw [h.1]
  lookup i w w' hi h := by
    obtain ⟨rfl, hw⟩ := h
    exact ⟨rfl, rfl, lookup i w hi hw⟩
  forget i w w' hi h := by
    obtain ⟨rfl, hw⟩ := h
    exact ⟨rfl, forget i w hi hw⟩
  rule verb r fam hsend htether := (rule verb r fam hsend htether).sim
  mark add m fam := (mark add m fam).sim
  route := route.sim

theorem setRules_self (w : Routing) (fam : Family) : w.setRules fam (w.rules fam) = w := by
  rw [Routing.setRules, update_eq_self]

theorem sendRuleRequest_keeps {verb : RuleVerb} {r : Rule} {fam : Family} (hr : r.Sendable)
    (hfaults : ∀ w fs, I w → I { w with faults := fs })
    (hnew : verb = .newRule → ∀ w, I w → I (w.setRules fam ((w.rules fam).insert r)))
    (hdel : verb = .delRule → ∀ w, I w → I (w.setRules fam ((w.rules fam).eraseFirst r.selects))) :
    Call.Keeps I (sendRuleRequest verb r.request fam) := by
  have hmask : r.Masked := masked_of_check hr.mark r.uidRange
  refine syscall_keeps hfaults fun w hw => ?_
  cases verb with
  | newRule =>
    show I (w.setRules fam ((w.rules fam).newRule r.request).2)
    by_cases hcode : ((w.rules fam).newRule r.request).1 = 0
    · rw [newRule_ok hcode, toRule_request hmask]
      exact hnew rfl w hw
    · rw [newRule_failed hcode, setRules_self]
      exact hw
  | delRule =>
    show I (w.setRules fam ((w.rules fam).delRule r.request).2)
    rw [delRule]
    split
    · exact hdel rfl w hw
    · rw [setRules_self]
      exact hw

theorem sendMarkCommand_keeps (hfaults : ∀ w fs, I w → I { w with faults := fs })
    (hmangle : ∀ w fam l, I w → I (w.setMangle fam l)) (add : Bool) (m : MarkRule) (fam : Family) :
    Call.Keeps I (sendMarkCommand add m fam) := by
  refine syscall_keeps hfaults fun w hw => ?_
  split
  · exact hmangle w fam _ hw
  split
  · exact hmangle w fam _ hw
  · exact hw

/-- A property that does not look at the rules, the mark rules and the faults. -/
theorem Respects.of_tables (hw : ∀ w w' : Routing, w'.ifIndex = w.ifIndex →
      w'.sInterfaceToTable = w.sInterfaceToTable → I w → I w')
    (lookup : ∀ i w, A i → I w → I (getRouteTableForInterface i w).2)
    (forget : ∀ i w, A i → I w → I { w with sInterfaceToTable := w.sInterfaceToTable.erase i }) :
    Respects A (Both I) := by
  have hfaults : ∀ w fs, I w → I { w with faults := fs } := fun w _ => hw w _ rfl rfl
  refine .of_keeps lookup forget ?_ ?_ (syscall_keeps hfaults (keeps_done I))
  · intro verb r fam hr _
    exact sendRuleRequest_keeps hr hfaults (fun _ w => hw w _ rfl rfl) fun _ w => hw w _ rfl rfl
  · exact sendMarkCommand_keeps hfaults fun w _ _ => hw w _ rfl rfl

/-- A lookup does not touch the kernel. -/
theorem getRouteTableForInterface_same (i : String) (w : Routing) :
    SameKernel w (getRouteTableForInterface i w).2 ∧
      (getRouteTableForInterface i w).2.ifIndex = w.ifIndex ∧
      (getRouteTableForInterface i w).2.faults = w.faults := by
  simp only [getRouteTableForInterface]
  split
  · exact ⟨⟨rfl, rfl⟩, rfl, rfl⟩
  · exact ⟨.refl w, rfl, rfl⟩

end

/-- Every rule but those of priority zero passes the checks of a request for it. -/
def Tidy (w : Routing) : Prop := ∀ fam, ∀ r ∈ (w.rules fam).toList, r.priority = 0 ∨ r.Sendable

variable {w : Routing} {effect : Call Routing} {f : String → Nat}

theorem Tidy.setRules (h : Tidy w) {fam : Family} {l : FibRules}
    (hl : ∀ r ∈ l.toList, r.priority = 0 ∨ r.Sendable) : Tidy (w.setRules fam l) := by
  intro fam' r hr
  rw [Routing.setRules] at hr
  by_cases hfam : fam' = fam
  · subst hfam
    dsimp only at hr
    rw [update_self] at hr
    exact hl r hr
  · dsimp only at hr
    rw [update_of_ne hfam] at hr
    exact h fam' r hr

theorem respects_tidy (A : String → Prop) : Respects A (Both Tidy) := by
  have hsame : ∀ w w' : Routing, w'.rules = w.rules → Tidy w → Tidy w' := by
    intro w w' hrules hw fam r hr
    rw [hrules] at hr
    exact hw fam r hr
  refine .of_keeps (fun i w _ => hsame w _ (getRouteTableForInterface_same i w).1.rules)
    (fun _ w _ => hsame w _ rfl) ?_ (sendMarkCommand_keeps (fun w _ => hsame w _ rfl) fun w _ _ =>
      hsame w _ rfl) (syscall_keeps (fun w _ => hsame w _ rfl) (keeps_done Tidy))
  intro verb r fam hr _
  refine sendRuleRequest_keeps hr (fun w _ => hsame w _ rfl) (fun _ w hw => hw.setRules ?_)
    fun _ w hw => hw.setRules ?_
  · intro x hx
    rcases mem_insert.mp hx with rfl | hold
    · exact .inr hr
    · exact hw fam x hold
  · intro x hx
    exact hw fam x (mem_of_mem_eraseFirst hx)

/-- No system call to come runs into a fault. -/
def Calm (w : Routing) : Prop := ∀ f ∈ w.faults, f = .pass

instance (w : Routing) : Decidable (Calm w) :=
  inferInstanceAs (Decidable (∀ f ∈ w.faults, f = .pass))

theorem Calm.syscall (h : Calm w) (effect : Call Routing) : ∃ fs, Calm { w with faults := fs } ∧
      Routing.syscall effect w = effect { w with faults := fs } := by
  cases hf : w.faults with
  | nil =>
    refine ⟨[], fun f hmem => (by cases hmem), ?_⟩
    cases w
    cases hf
    rfl
  | cons f fs =>
    cases h f (hf ▸ List.mem_cons_self)
    exact ⟨fs, fun g hg => h g (hf ▸ List.mem_cons_of_mem _ hg), by rw [Routing.syscall, hf]⟩

theorem syscall_calm (heffect : ∀ w, (effect w).2.faults = w.faults) :
    Call.Keeps Calm (Routing.syscall effect) := by
  intro w hw
  obtain ⟨fs, hfs, hrun⟩ := hw.syscall effect
  rw [hrun]
  intro f hf
  rw [heffect] at hf
  exact hfs f hf

theorem sendMarkCommand_calm (add : Bool) (m : MarkRule) (fam : Family) :
    Call.Keeps Calm (sendMarkCommand add m fam) := by
  refine syscall_calm fun w => ?_
  split
  · rfl
  split
  · rfl
  · rfl

theorem respects_calm (A : String → Prop) : Respects A (Both Calm) := by
  have hsame : ∀ w w' : Routing, w'.faults = w.faults → Calm w → Calm w' := by
    intro w w' hfaults hw f hf
    rw [hfaults] at hf
    exact hw f hf
  refine .of_keeps (fun i w _ => hsame w _ (getRouteTableForInterface_same i w).2.2)
    (fun _ w _ => hsame w _ rfl) ?_ sendMarkCommand_calm (syscall_calm fun _ => rfl)
  intro verb r fam _ _
  exact syscall_calm fun w => rfl

theorem respects_numbered (A : String → Prop) (idx : String → Nat) :
    Respects A (Both (Numbered idx)) := by
  refine .of_tables (fun w w' hi ht hw => hw.of_same hi ht)
    (fun i w _ hw => (getRouteTableForInterface_spec i hw).1) fun i w _ hw => ⟨hw.index, ?_⟩
  exact fun j t hj ht => hw.table j t hj (OrdMap.find?_of_erase ht).2

/-! ### Tethering rules -/

/-- The tethering rules of input interfaces outside `A` are those of `V`. -/
def Forwards (A : String → Prop) (V : Family → Multiset Rule) (w : Routing) : Prop :=
  ∀ fam (x : Rule), x.priority = rulePriorityTethering → (∀ i, A i → x.iif ≠ some i) →
    (w.rules fam).bag.count x = (V fam).count x

theorem Forwards.setRules {A : String → Prop} {V : Family → Multiset Rule} (h : Forwards A V w)
    {fam : Family} {l : FibRules}
    (hl : ∀ x : Rule, x.priority = rulePriorityTethering → (∀ i, A i → x.iif ≠ some i) →
      l.bag.count x = (w.rules fam).bag.count x) : Forwards A V (w.setRules fam l) := by
  intro fam' x hprio hiif
  rw [Routing.setRules]
  by_cases hfam : fam' = fam
  · subst hfam
    dsimp only
    rw [update_self, hl x hprio hiif]
    exact h fam' x hprio hiif
  · dsimp only
    rw [update_of_ne hfam]
    exact h fam' x hprio hiif

theorem respects_forwards (A : String → Prop) (V : Family → Multiset Rule) :
    Respects A (Both (Forwards A V)) := by
  have hsame : ∀ w w' : Routing, w'.rules = w.rules → Forwards A V w → Forwards A V w' := by
    intro w w' hrules hw fam x
    rw [hrules]
    exact hw fam x
  refine .of_keeps (fun i w _ => hsame w _ (getRouteTableForInterface_same i w).1.rules)
    (fun _ w _ => hsame w _ rfl) ?_ (sendMarkCommand_keeps (fun w _ => hsame w _ rfl) fun w _ _ =>
      hsame w _ rfl) (syscall_keeps (fun w _ => hsame w _ rfl) (keeps_done (Forwards A V)))
  intro verb r fam hr htether
  -- a request that reaches the rule has its priority and its input interface
  have hother : ∀ x : Rule, x.priority = rulePriorityTethering → (∀ i, A i → x.iif ≠ some i) →
      r.selects x = false := by
    intro x hprio hiif
    refine Bool.eq_false_iff.mpr fun hsel => ?_
    obtain ⟨i, hi, hri⟩ := htether ((selects_priority hsel).symm.trans hprio)
    exact hiif i hi ((selects_iff.mp hsel).2.2.2.2.1 i hri)
  refine sendRuleRequest_keeps hr (fun w _ => hsame w _ rfl) (fun _ w hw => hw.setRules ?_)
    fun _ w hw => hw.setRules ?_
  · intro x hprio hiif
    rw [bag_insert, Multiset.count_cons_of_ne]
    rintro rfl
    exact absurd (selects_self x) (Bool.eq_false_iff.mp (hother x hprio hiif))
  · intro x hprio hiif
    exact count_eraseFirst (hother x hprio hiif)

/-! ### Lookups that find a table -/

/-- A lookup of the interface finds a table. -/
def Located (i : String) (w : Routing) : Prop := (getRouteTableForInterface i w).1 ≠ rtTableUnspec

instance (i : String) (w : Routing) : Decidable (Located i w) := inferInstanceAs (Decidable (_ ≠ _))

/-- What a lookup finds depends on the reported number and the remembered table. -/
theorem getRouteTableForInterface_congr {i : String} {w' : Routing}
    (hidx : w'.ifIndex i = w.ifIndex i)
    (htable : w.ifIndex i = 0 → w'.sInterfaceToTable.find? i = w.sInterfaceToTable.find? i) :
    (getRouteTableForInterface i w').1 = (getRouteTableForInterface i w).1 := by
  simp only [getRouteTableForInterface, hidx]
  split
  · rfl
  · next hz => rw [htable (not_not.mp hz)]

theorem Located.lookup {j : String} (h : Located j w) (i : String) :
    Located j (getRouteTableForInterface i w).2 := by
  rw [Located, getRouteTableForInterface_congr]
  · exact h
  · rw [(getRouteTableForInterface_same i w).2.1]
  · intro hz
    simp only [getRouteTableForInterface]
    split
    · rename_i hi
      rw [OrdMap.find?_insert, if_neg]
      rintro rfl
      exact hi hz
    · rfl

theorem respects_located (j : String) : Respects (· ≠ j) (Both (Located j)) := by
  refine .of_tables (fun w w' hi ht hw => ?_) (fun i w _ hw => hw.lookup i) fun i w hi hw => ?_
  · rw [Located, getRouteTableForInterface_congr (congrFun hi j) fun _ => by rw [ht]]
    exact hw
  · have hsame : (getRouteTableForInterface j
        { w with sInterfaceToTable := w.sInterfaceToTable.erase i }).1 =
        (getRouteTableForInterface j w).1 :=
      getRouteTableForInterface_congr rfl fun _ =>
        (OrdMap.find?_erase ..).trans (if_neg (Ne.symm hi))
    rw [Located, hsame]
    exact hw

/-! ### Reports about other interfaces -/

/-- The two states differ in what they report about interfaces only. -/
def SameBut (f g : String → Nat) (w w' : Routing) : Prop :=
  w.ifIndex = g ∧ w' = { w with ifIndex := f }

/-- The effect does not look at the reports. -/
def Blind (f : String → Nat) (effect : Call Routing) : Prop :=
  ∀ w, (effect w).2.ifIndex = w.ifIndex ∧
    effect { w with ifIndex := f } = ((effect w).1, { (effect w).2 with ifIndex := f })

theorem Blind.sim {g : String → Nat} (h : Blind f effect) : Sim (SameBut f g) effect effect := by
  rintro w _ ⟨hg, rfl⟩
  obtain ⟨hidx, hrun⟩ := h w
  rw [hrun]
  exact ⟨rfl, hidx.trans hg, rfl⟩

theorem Blind.syscall (h : Blind f effect) : Blind f (Routing.syscall effect) := by
  intro w
  cases hf : w.faults with
  | nil =>
    have hrun := h w
    rw [hf] at hrun
    simp only [Routing.syscall, hf]
    exact hrun
  | cons fault fs =>
    obtain ⟨hidx, hrun⟩ := h { w with faults := fs }
    cases fault with
    | pass =>
      simp only [Routing.syscall, hf]
      exact ⟨hidx, hrun⟩
    | refuse e => simp only [Routing.syscall, hf, and_self]
    | loseAck e =>
      simp only [Routing.syscall, hf]
      exact ⟨hidx, congrArg (fun r => (Int.negSucc e, r.2)) hrun⟩

theorem sendMarkCommand_blind (add : Bool) (m : MarkRule) (fam : Family) :
    Blind f (sendMarkCommand add m fam) := by
  refine Blind.syscall fun w => ?_
  split
  · exact ⟨rfl, rfl⟩
  split
  · exact ⟨rfl, rfl⟩
  · exact ⟨rfl, rfl⟩

theorem respects_sameBut (f g : String → Nat) : Respects (fun i => f i = g i) (SameBut f g) where
  rules := by
    rintro w _ ⟨_, rfl⟩
    rfl
  tables := by
    rintro w _ ⟨_, rfl⟩
    rfl
  lookup := by
    rintro i w _ hi ⟨hg, rfl⟩
    have hidx : f i = w.ifIndex i := hi.trans (congrFun hg i).symm
    simp only [getRouteTableForInterface, hidx]
    split
    · exact ⟨rfl, hg, rfl⟩
    · exact ⟨rfl, hg, rfl⟩
  forget := by
    rintro i w _ _ ⟨hg, rfl⟩
    exact ⟨hg, rfl⟩
  rule verb r fam _ _ := (Blind.syscall fun w => ⟨rfl, rfl⟩).sim
  mark add m fam := (sendMarkCommand_blind add m fam).sim
  route := (Blind.syscall fun w => ⟨rfl, rfl⟩).sim

end Netd
