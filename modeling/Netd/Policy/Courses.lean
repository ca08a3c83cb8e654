import Netd.Policy.Clearing
import Netd.Policy.Runs

/-!
# Runs with failures and re-created interfaces

netd finds the routing table of an interface by the number that the kernel reports for its name at
the moment. When an interface is made anew, a removal asks for rules that were never there.

`NetdNativeService.Course` has the runs in which this does no harm: a call returns 0 or changes
neither the controller nor the rules, and no call looks up an interface that is reported under a
number other than the one netd knows it by.
-/

namespace Netd

open NetworkController List
open RouteController (api getRouteTableForInterface padInterfaceName)

theorem InitRule.sendable {idx : String → Nat} {x : Rule} (h : InitRule idx x) :
    x.priority = 0 ∨ x.Sendable := by
  rcases h with hzero | hinit | hdummy
  · exact .inl hzero
  · refine .inr ?_
    simp only [initRules, mem_cons, not_mem_nil, or_false] at hinit
    rcases hinit with rfl | rfl | rfl | rfl | rfl | rfl
    all_goals exact ⟨by decide, rfl, rfl, fun u hu => by cases hu⟩
  · refine .inr ?_
    rw [outputInterfaceRules, if_pos ⟨rfl, rfl⟩] at hdummy
    simp only [cons_append, nil_append, mem_cons, not_mem_nil, or_false] at hdummy
    have hname : (padInterfaceName (some dummyInterfaceName)).1 = 0 := by decide
    have hmark : ({} : Fwmark).intValue &&& ~~~({} : Fwmark).intValue = 0 := by decide
    rcases hdummy with rfl | rfl
    · refine ⟨hmark, rfl, hname, fun u hu => ?_⟩
      cases hu
      exact show uidRoot ≠ invalidUid by decide
    · exact ⟨hmark, rfl, hname, fun u hu => by cases hu⟩

namespace NetdNativeService

/-! ## What a call looks up -/

/-- The interfaces whose tables a call may look up. -/
def Op.lookups (c : NetworkController) : Op → List String
  | .network op => op.lookups c
  | .networkRejectNonSecureVpn _ _ => []
  | .ipfwdAddInterfaceForward _ toIface => [toIface]
  | .ipfwdRemoveInterfaceForward _ toIface => [toIface]

section

variable {idx idx' idx₀ : String → Nat} {w₀ w w' : Routing} {ops : List Op}
  {c c' : NetworkController} {e : Int} {i : String} {st : NetworkController × Routing}
  {f g : String → Nat}

theorem step_respects {I : Routing → Prop} (h : Respects (fun _ => True) (Call.Both I)) (op : Op)
    (hw : I w) : I (step op (c, w)).2.2 := by
  cases op with
  | network op =>
    exact (NetworkController.step_agrees h.api ⟨rfl, hw⟩ op fun _ _ => trivial).state.2
  | networkRejectNonSecureVpn add ranges =>
    cases add with
    | true | false => exact (modifyRejectNonSecureNetworkRule_sim h).keeps w hw
  | ipfwdAddInterfaceForward fromIface toIface | ipfwdRemoveInterfaceForward fromIface toIface =>
    exact (modifyTetheredNetwork_sim h trivial trivial).keeps w hw

/-- The input interface of a tethering rule is not looked up. -/
theorem modifyTetheredNetwork_sameBut {verb : RuleVerb} {o : String} (ho : f o = g o) :
    Call.Sim (SameBut f g) (RouteController.modifyTetheredNetwork verb i o)
      (RouteController.modifyTetheredNetwork verb i o) :=
  withTable_sim (respects_sameBut f g) ho fun _ => modifyIpRule_sim fun _ _ =>
    (Blind.syscall fun _ => ⟨rfl, rfl⟩).sim

theorem step_sameBut (op : Op) (hst : SameBut f g w w') (hA : ∀ i ∈ op.lookups c, f i = g i) :
    Call.Agree (SameBut f g) (step op (c, w)) (step op (c, w')) := by
  have h := respects_sameBut f g
  cases op with
  | network op => exact NetworkController.step_agrees h.api hst op hA
  | networkRejectNonSecureVpn add ranges =>
    cases add with
    | true | false => exact (modifyRejectNonSecureNetworkRule_sim h).onSnd hst
  | ipfwdAddInterfaceForward fromIface toIface | ipfwdRemoveInterfaceForward fromIface toIface =>
    exact (modifyTetheredNetwork_sameBut (hA toIface mem_cons_self)).onSnd hst

/-! ## Reports that netd agrees with -/

/-- The state without the reports that contradict the numbering. -/
def agreed (idx : String → Nat) (w : Routing) : Routing :=
  { w with ifIndex := fun i => if w.ifIndex i = idx i then idx i else 0 }

/-- The interfaces are reported as `idx` numbers them, or not at all. -/
def Informed (idx : String → Nat) (w : Routing) (interfaces : List String) : Prop :=
  ∀ i ∈ interfaces, w.ifIndex i = 0 ∨ w.ifIndex i = idx i

instance (idx : String → Nat) (w : Routing) (interfaces : List String) :
    Decidable (Informed idx w interfaces) :=
  inferInstanceAs (Decidable (∀ i ∈ interfaces, w.ifIndex i = 0 ∨ w.ifIndex i = idx i))

theorem agreed_ifIndex (h : w.ifIndex i = 0 ∨ w.ifIndex i = idx i) :
    (agreed idx w).ifIndex i = w.ifIndex i := by
  simp only [agreed]
  split
  · next heq => exact heq.symm
  · next hne => exact (h.resolve_right hne).symm

theorem agreed_of_numbered (h : Numbered idx w) : agreed idx w = w := by
  have hreports : (agreed idx w).ifIndex = w.ifIndex := funext fun i => agreed_ifIndex (h.index i)
  exact congrArg (fun f => Routing.mk _ _ f _ _) hreports

/-- A cache with tables of the numbering has the right ones for the interfaces that are not
reported. -/
theorem numbered_agreed
    (h : ∀ entry ∈ w.sInterfaceToTable.entries, idx entry.1 ≠ 0 ∧ entry.2 = tableOf idx entry.1) :
    Numbered idx (agreed idx w) := by
  refine ⟨fun i => ?_, fun i t _ ht => h (i, t) (OrdMap.find?_eq_some.mp ht)⟩
  simp only [agreed]
  split
  · exact .inr rfl
  · exact .inl rfl

theorem step_agreed (op : Op) (h : Informed idx w (op.lookups c))
    (hm : step op (c, w) = (e, (c', w'))) :
    step op (c, agreed idx w) = (e, (c', agreed idx w')) := by
  have hagree := step_sameBut op (c := c)
    (show SameBut (agreed idx w).ifIndex w.ifIndex w (agreed idx w) from ⟨rfl, rfl⟩)
    fun i hi => agreed_ifIndex (h i hi)
  rw [hm] at hagree
  obtain ⟨hcode, hctrl, hidx, hstate⟩ := hagree
  have hsame : agreed idx w' = { w' with ifIndex := (agreed idx w).ifIndex } := by
    rw [agreed, hidx]
    rfl
  rw [hsame, ← hstate]
  exact Prod.ext hcode.symm (Prod.ext hctrl.symm rfl)

/-! ## Courses -/

/-- The runs from `w₀` in which every call returns 0 or is refused: the numbering netd knows, the
calls that returned 0, the last one first, and the state reached. -/
inductive Course (idx₀ : String → Nat) (w₀ : Routing) :
    (String → Nat) → List Op → NetworkController × Routing → Prop where
  | start : Course idx₀ w₀ idx₀ [] (.new, w₀)
  | call {idx : String → Nat} {ops : List Op} {c : NetworkController} {w : Routing}
      {st : NetworkController × Routing} (op : Op) :
      Course idx₀ w₀ idx ops (c, w) → Informed idx w (op.lookups c) →
      step op (c, w) = (0, st) → Course idx₀ w₀ idx (op :: ops) st
  /-- A call that changed nothing. -/
  | refused {idx : String → Nat} {ops : List Op} {c : NetworkController} {w w' : Routing} {e : Int}
      (op : Op) :
      Course idx₀ w₀ idx ops (c, w) → Informed idx w (op.lookups c) →
      step op (c, w) = (e, (c, w')) → SameKernel w w' → Course idx₀ w₀ idx ops (c, w')
  /-- The kernel reports other numbers. The interfaces of networks keep the number netd knows. -/
  | interfaces {idx idx' : String → Nat} {ops : List Op} {c : NetworkController} {w : Routing}
      (ifIndex : String → Nat) :
      Course idx₀ w₀ idx ops (c, w) → Renumbers c idx idx' →
      Numbered idx' (agreed idx' { w with ifIndex := ifIndex }) →
      Course idx₀ w₀ idx' ops (c, { w with ifIndex := ifIndex })
  /-- Other system calls will fail. -/
  | failures {idx : String → Nat} {ops : List Op} {c : NetworkController} {w : Routing}
      (faults : List Fault) :
      Course idx₀ w₀ idx ops (c, w) → Course idx₀ w₀ idx ops (c, { w with faults := faults })

/-- The ledger is balanced but for reports that netd does not know of. -/
structure Followed (w₀ : Routing) (idx : String → Nat) (ops : List Op) (c : NetworkController)
    (w : Routing) : Prop where
  accounted : Accounted w₀ idx ops (c, agreed idx w)
  tidy : Tidy w

theorem Followed.of_same (h : Followed w₀ idx ops c w) (hnum : Numbered idx (agreed idx w'))
    (hsame : SameKernel w w') : Followed w₀ idx ops c w' := by
  obtain ⟨⟨hidx, hbase, hrejects, hbooks⟩, htidy⟩ := h
  have hsteady : Steady idx (Tethered ops) (policy w) (agreed idx w) :=
    ⟨hbooks.ledger.sound, fun _ => rfl⟩
  have hsame' : SameKernel (agreed idx w) (agreed idx w') := ⟨hsame.rules, hsame.mangle⟩
  refine ⟨⟨hidx, hbase, hrejects, hbooks.of_steady (hsteady.of_same hnum hsame')⟩, ?_⟩
  intro fam x hx
  rw [hsame.rules] at hx
  exact htidy fam x hx

theorem Course.followed (h₀ : Started idx₀ w₀) (hrun : Course idx₀ w₀ idx ops st)
    (hops : Admissible ops) : Followed w₀ idx ops st.1 st.2 := by
  induction hrun with
  | start =>
    have hacc := Run.accounted h₀ .start hops
    obtain ⟨_, boot, hnum, hmarks, hinit⟩ := h₀
    have hstart := init_starting hnum hmarks hinit
    refine ⟨?_, fun fam x hx => InitRule.sendable (hstart.rules fam x hx)⟩
    rw [agreed_of_numbered hstart.numbered]
    exact hacc
  | @call idx ops c w st op _ hinf hstep ih =>
    obtain ⟨hacc, htidy⟩ := ih fun op' hop' => hops op' (mem_cons_of_mem _ hop')
    have hkept := step_respects (respects_tidy fun _ => True) op htidy (c := c)
    rw [hstep] at hkept
    exact ⟨hacc.step (hops op mem_cons_self) (step_agreed op hinf hstep), hkept⟩
  | @refused idx ops c w w' e op _ hinf hstep hsame ih =>
    have hold := ih hops
    have hnum : Numbered idx (step op (c, agreed idx w)).2.2 :=
      step_respects (respects_numbered (fun _ => True) idx) op
        hold.accounted.books.ledger.sound.numbered
    rw [step_agreed op hinf hstep] at hnum
    exact hold.of_same hnum hsame
  | interfaces ifIndex _ hren hnum ih =>
    obtain ⟨hacc, htidy⟩ := ih hops
    exact ⟨⟨hren.distinct, hren.initBase hacc.initBase hacc.books.ledger, hacc.rejects_ok,
      hren.books hacc.books hnum ⟨rfl, rfl⟩⟩, htidy⟩
  | failures faults _ ih =>
    have hold := ih hops
    have hnum := hold.accounted.books.ledger.sound.numbered
    exact hold.of_same (hnum.of_same rfl rfl) ⟨rfl, rfl⟩

/-- Runs in which every interface keeps its number are courses. -/
theorem Run.course (h₀ : Started idx₀ w₀) (hrun : Run idx₀ w₀ idx ops st) (hops : Admissible ops) :
    Course idx₀ w₀ idx ops st := by
  induction hrun with
  | start => exact .start
  | @call idx ops st st' op hrun hstep ih =>
    have hops' : Admissible ops := fun op' hop' => hops op' (mem_cons_of_mem _ hop')
    have hnum := (hrun.accounted h₀ hops').books.ledger.sound.numbered
    exact (ih hops').call op (fun i _ => hnum.index i) hstep
  | interfaces ifIndex _ hren hnum ih =>
    refine (ih hops).interfaces ifIndex hren ?_
    rw [agreed_of_numbered hnum]
    exact hnum

/-! ## Removals -/

/-- A lookup of the interface finds the table that netd knows. -/
def Reported (idx : String → Nat) (w : Routing) (i : String) : Prop :=
  (w.ifIndex i = 0 ∨ w.ifIndex i = idx i) ∧ Located i w

instance (idx : String → Nat) (w : Routing) (i : String) : Decidable (Reported idx w i) :=
  inferInstanceAs (Decidable (_ ∧ _))

/-- The operation returns 0 and takes exactly `M` out of the policy. Tethering rules of input
interfaces that it does not look up stay. -/
def Removes (op : NetworkController.Op) (M : Multiset Item) (c : NetworkController)
    (w : Routing) : Prop :=
  ∃ c' w', NetworkController.step api op (c, w) = (0, (c', w')) ∧
    (∀ fam, policy w fam = policy w' fam + M) ∧
    Forwards (· ∈ op.lookups c) (fun fam => (w.rules fam).bag) w'

theorem poised_agreed {interfaces : List String} (hcalm : Calm w) (htidy : Tidy w)
    (h : ∀ i ∈ interfaces, Reported idx w i) : Poised (· ∈ interfaces) (agreed idx w) := by
  refine ⟨hcalm, htidy, fun i hi => ?_⟩
  have hsame : (getRouteTableForInterface i (agreed idx w)).1 =
      (getRouteTableForInterface i w).1 :=
    getRouteTableForInterface_congr (agreed_ifIndex (h i hi).1) fun _ => rfl
  rw [Located, hsame]
  exact (h i hi).2

/-- It is enough to look at the reports that netd agrees with. -/
theorem removes_of_agreed {op : NetworkController.Op} {M : Multiset Item}
    (h : ∀ i ∈ op.lookups c, Reported idx w i)
    (hcode : (NetworkController.step api op (c, agreed idx w)).1 = 0)
    (hpolicy : ∀ c' w', NetworkController.step api op (c, agreed idx w) = (0, (c', w')) →
      ∀ fam, policy (agreed idx w) fam = policy w' fam + M) : Removes op M c w := by
  have hkept : Forwards (· ∈ op.lookups c) (fun fam => (w.rules fam).bag)
      (NetworkController.step api op (c, w)).2.2 :=
    (NetworkController.step_agrees (respects_forwards ..).api ⟨rfl, fun _ _ _ _ => rfl⟩ op
      fun _ hi => hi).state.2
  rcases hm : NetworkController.step api op (c, w) with ⟨e, c', w'⟩
  have hagreed : NetworkController.step api op (c, agreed idx w) = (e, (c', agreed idx w')) :=
    step_agreed (.network op) (fun i hi => (h i hi).1) hm
  rw [hagreed] at hcode
  subst hcode
  rw [hm] at hkept
  exact ⟨c', w', hm, hpolicy c' (agreed idx w') hagreed, hkept⟩

section

variable {netId : Nat} {n : Network} (hrun : Course idx₀ w₀ idx ops (c, w))
  (h₀ : Started idx₀ w₀) (hops : Admissible ops) (hcalm : Calm w)
  (hn : c.getNetworkLocked netId = some n) (htype : n.getType ≠ .dummy)

include hrun h₀ hops hcalm hn htype

theorem Course.removes_interface (hi : i ∈ n.getInterfaces.keys)
    (hrep : ∀ j ∈ (NetworkController.Op.removeInterfaceFromNetwork netId i).lookups c,
      Reported idx w j) :
    Removes (.removeInterfaceFromNetwork netId i) (interfaceItems idx c.virtualNetIds n i) c w := by
  obtain ⟨⟨hidx, hbase, _, hbooks⟩, htidy⟩ := hrun.followed h₀ hops
  have hpoised := poised_agreed hcalm htidy hrep
  exact removes_of_agreed hrep
    (removeInterfaceFromNetwork_returns hbooks hn hidx hbase htype hi hpoised)
    fun c' w' hm => removeInterfaceFromNetwork_policy hbooks hn hidx hbase hi hm

theorem Course.removes_network (hlocal : netId ≠ localNetId)
    (hrep : ∀ j ∈ (NetworkController.Op.destroyNetwork netId).lookups c, Reported idx w j) :
    Removes (.destroyNetwork netId)
      (networkItems idx c.virtualNetIds n + fallthroughItems idx c netId) c w := by
  obtain ⟨⟨hidx, hbase, _, hbooks⟩, htidy⟩ := hrun.followed h₀ hops
  have hpoised := poised_agreed hcalm htidy hrep
  exact removes_of_agreed hrep
    (destroyNetwork_returns hbooks hn hidx hbase htype hlocal hpoised)
    fun c' w' hm => destroyNetwork_policy hbooks hidx hbase hn hlocal hm

end

/-- On every course, a calm removal takes exactly the items of the interface or network out of the
policy, if the interfaces it looks up have the number netd knows, or are only in its cache. -/
theorem removal_takes_old_table {netId : Nat} {n : Network} (h₀ : Started idx₀ w₀)
    (hrun : Course idx₀ w₀ idx ops (c, w)) (hops : Admissible ops) (hcalm : Calm w)
    (hn : c.getNetworkLocked netId = some n) (htype : n.getType ≠ .dummy) :
    (∀ i ∈ n.getInterfaces.keys,
      (∀ j ∈ (NetworkController.Op.removeInterfaceFromNetwork netId i).lookups c,
        Reported idx w j) →
      Removes (.removeInterfaceFromNetwork netId i) (interfaceItems idx c.virtualNetIds n i) c w) ∧
    (netId ≠ localNetId →
      (∀ j ∈ (NetworkController.Op.destroyNetwork netId).lookups c, Reported idx w j) →
      Removes (.destroyNetwork netId)
        (networkItems idx c.virtualNetIds n + fallthroughItems idx c netId) c w) := by
  constructor
  · intro i hi hrep
    exact hrun.removes_interface h₀ hops hcalm hn htype hi hrep
  · intro hlocal hrep
    exact hrun.removes_network h₀ hops hcalm hn htype hlocal hrep

end

/-! ### A re-created interface -/

def oneNetwork : List Op :=
  [.network (.createPhysicalNetwork 100 .none), .network (.addInterfaceToNetwork 100 "wlan0")]

def connected : NetworkController × Routing := (Call.each step oneNetwork (.new, afterInit)).2

/-- The kernel reports another number for `wlan0`. -/
def reporting (index : Nat) (w : Routing) : Routing :=
  { w with ifIndex := fun i => if i = "wlan0" then index else w.ifIndex i }

/-- The interface is re-created under another number and deleted again. -/
def deletedAgain : Routing := reporting 0 (reporting 13 connected.2)

theorem course_deletedAgain :
    Course threeInterfaces afterInit threeInterfaces (oneNetwork.reverse ++ [])
      (connected.1, deletedAgain) := by
  have hstart : Run threeInterfaces afterInit threeInterfaces [] (.new, afterInit) := .start
  have hrun : Course threeInterfaces afterInit threeInterfaces (oneNetwork.reverse ++ [])
      (connected.1, connected.2) :=
    (hstart.calls oneNetwork (by decide +kernel)).course started_afterInit (by decide)
  have hren : Renumbers connected.1 threeInterfaces threeInterfaces :=
    ⟨threeInterfaces_distinct, fun _ _ _ _ _ => rfl⟩
  have hcache : ∀ entry ∈ connected.2.sInterfaceToTable.entries,
      threeInterfaces entry.1 ≠ 0 ∧ entry.2 = tableOf threeInterfaces entry.1 := by decide +kernel
  exact (hrun.interfaces _ hren (numbered_agreed hcache)).interfaces _ hren (numbered_agreed hcache)

theorem removal_takes_old_table_deletedAgain : ∃ n, connected.1.getNetworkLocked 100 = some n ∧
      Removes (.removeInterfaceFromNetwork 100 "wlan0")
        (interfaceItems threeInterfaces connected.1.virtualNetIds n "wlan0") connected.1
          deletedAgain ∧
      Removes (.destroyNetwork 100)
        (networkItems threeInterfaces connected.1.virtualNetIds n +
          fallthroughItems threeInterfaces connected.1 100) connected.1 deletedAgain := by
  have hnet : ∃ n ∈ connected.1.getNetworkLocked 100,
      n.getType ≠ .dummy ∧ "wlan0" ∈ n.getInterfaces.keys := by decide +kernel
  obtain ⟨n, hn, htype, hi⟩ := hnet
  obtain ⟨hrem, hdestroy⟩ := removal_takes_old_table started_afterInit course_deletedAgain
    (by decide) (by decide +kernel) hn htype
  exact ⟨n, hn, hrem "wlan0" hi (by decide +kernel), hdestroy (by decide) (by decide +kernel)⟩

/-- Under the new number both removals fail, and the rules of the old table stay. -/
theorem recreated_interface_leaves_rules :
    (Call.each step oneNetwork (.new, afterInit)).1 = 0 ∧ Calm (reporting 13 connected.2) ∧
      (removeInterfaceFromNetwork api 100 "wlan0" (connected.1, reporting 13 connected.2)).1 =
        -Errno.enoent ∧
      (destroyNetwork api 100 (connected.1, reporting 13 connected.2)).1 = -Errno.enoent ∧
      (destroyNetwork api 100 (connected.1, reporting 13 connected.2)).2.1.isValidNetworkLocked
        100 = false ∧
      ∀ x ∈ physicalRules 100 "wlan0" 1010 .none,
        x ∈ ((removeInterfaceFromNetwork api 100 "wlan0"
            (connected.1, reporting 13 connected.2)).2.2.rules .inet).toList ∧
          x ∈ ((destroyNetwork api 100
            (connected.1, reporting 13 connected.2)).2.2.rules .inet).toList := by
  decide +kernel

end NetdNativeService

end Netd
