import Netd.Server.BandwidthCounters

/-!
# Alerts equal the requested ones

The rule of a new alert makes its counter with the requested value. For an alert that is in force
`setCostlyAlert` writes the value that is recorded and not the one that is requested.

Commands and files may fail, and a write to a file may be lost. The names of interfaces with quotas
must not be the names of other counters (`PlainName`).
-/

namespace Netd.Bandwidth

open RuleTable

variable {base4 base6 : Multiset (Entry Chain Rule)} {s s' : State} {env : Env}
  {iface cost : String}

/-! ## Names of counters -/

/-- The name is neither that of the shared quota nor that of an alert. -/
def PlainName (iface : String) : Prop := iface ≠ sharedCost ∧ ¬ "Alert".toList <:+ iface.toList

instance decidablePlainName (iface : String) : Decidable (PlainName iface) :=
  inferInstanceAs (Decidable (_ ∧ _))

theorem suffix_alertName (cost : String) : "Alert".toList <:+ (alertName cost).toList := by
  rw [alertName, String.toList_append]
  exact List.suffix_append _ _

theorem alertName_ne_sharedCost : alertName cost ≠ sharedCost := by
  intro heq
  have hsuffix := suffix_alertName cost
  rw [heq] at hsuffix
  exact absurd hsuffix (by decide +kernel)

theorem PlainName.alertName_ne (h : PlainName iface) : alertName cost ≠ iface := by
  rintro rfl
  exact h.2 (suffix_alertName cost)

theorem alertName_injective {cost' : String} (h : alertName cost = alertName cost') :
    cost = cost' := by
  have htoList := congrArg String.toList h
  rw [alertName, alertName, String.toList_append, String.toList_append] at htoList
  exact String.toList_injective (List.append_cancel_right htoList)

/-! ## Calls -/

/-- The counters of the alerts have the recorded values. -/
structure AlertsHold (s : State) : Prop where
  shared : s.mSharedAlertBytes ≠ 0 →
    s.kernel.counters (alertName sharedCost) = some s.mSharedAlertBytes
  own : ∀ iface info, s.mQuotaIfaces iface = some info → info.alert ≠ 0 →
    s.kernel.counters (alertName iface) = some info.alert
  names : ∀ iface info, s.mQuotaIfaces iface = some info → PlainName iface

theorem AlertsHold.shrink (h : AlertsHold s) (hs : Shrinks s s') : AlertsHold s' where
  shared hn := by
    have hsame := hs.alert.resolve_left hn
    rw [hs.counters _ (named_of_sharedAlert hn), hsame]
    exact h.shared (hsame ▸ hn)
  own iface info' hinfo' hn := by
    obtain ⟨info, hinfo, -, halert⟩ := hs.quota iface info' hinfo'
    have hsame := halert.resolve_left hn
    rw [hs.counters _ (named_of_alert hinfo' hn), hsame]
    exact h.own iface info hinfo (hsame ▸ hn)
  names iface info' hinfo' := by
    obtain ⟨info, hinfo, -⟩ := hs.quota iface info' hinfo'
    exact h.names iface info hinfo

/-- An alert that is not recorded has no counter. -/
theorem AlertsHold.counter_eq_none (h : AlertsHold s) (hholds : Holds base4 base6 s)
    (hshared : cost = sharedCost → s.mSharedAlertBytes = 0)
    (hown : ∀ info, s.mQuotaIfaces cost = some info → info.alert = 0) :
    s.kernel.counters (alertName cost) = none := by
  refine hholds.unnamed _ ?_
  rintro (⟨-, heq⟩ | ⟨hn, heq⟩ | hsome | ⟨iface, info, hinfo, hn, heq⟩)
  · exact alertName_ne_sharedCost heq
  · exact hn (hshared (alertName_injective heq))
  · obtain ⟨info, hinfo⟩ := Option.ne_none_iff_exists'.mp hsome
    exact (h.names _ info hinfo).alertName_ne rfl
  · rw [alertName_injective heq] at hown
    exact hn (hown info hinfo)

/-- What the kernel and the records are to be after a call that set an alert. -/
def AlertHonoured : Call → State × Int → Prop
  | .setSharedAlert n, r => r.2 = 0 →
      r.1.kernel.counters (alertName sharedCost) = some n ∧ r.1.mSharedAlertBytes = n
  | .setInterfaceAlert iface n, r => r.2 = 0 →
      r.1.kernel.counters (alertName iface) = some n ∧
        ∃ info, r.1.mQuotaIfaces iface = some info ∧ info.alert = n
  | _, _ => True

structure AlertStep (base4 base6 : Multiset (Entry Chain Rule)) (s' : State) : Prop where
  holds : Holds base4 base6 s'
  alerts : AlertsHold s'

theorem AlertsHold.reduce (h : AlertsHold s) (hr : Reduces base4 base6 s s') :
    AlertStep base4 base6 s' :=
  ⟨hr.holds, h.shrink hr.shrinks⟩

theorem or_counter {c : Option Int} {n : Int} (h : c = some n) (d : Option Int) :
    c.or d = some n := by
  rw [h]
  rfl

theorem sharedQuota_keeps (hholds : Holds base4 base6 s) (h : AlertsHold s) (henv : env.Whole)
    (iface : String) (maxBytes : Int) :
    AlertStep base4 base6 (s.setInterfaceSharedQuota env iface maxBytes).1 := by
  have hset := hholds.setInterfaceSharedQuota henv iface maxBytes
  generalize s.setInterfaceSharedQuota env iface maxBytes = r at hset
  cases hset with
  | reduced hr hres => exact h.reduce hr
  | lost hlost hiface =>
    exact ⟨hholds.congr rfl rfl rfl rfl, ⟨h.shared, h.own, h.names⟩⟩
  | updated hiface hcounter =>
    refine ⟨(hholds.write hcounter maxBytes).congr rfl rfl rfl rfl, ?_, ?_, h.names⟩
    · intro hn
      exact (counters_setCounter_of_ne alertName_ne_sharedCost maxBytes).trans (h.shared hn)
    · intro iface info hinfo hn
      exact (counters_setCounter_of_ne alertName_ne_sharedCost maxBytes).trans
        (h.own iface info hinfo hn)
  | shared hiface hk hcounters =>
    refine ⟨hk, ?_, ?_, h.names⟩
    · intro hn
      exact (hcounters _ (named_of_sharedAlert hn)).trans (or_counter (h.shared hn) _)
    · intro iface info hinfo hn
      exact (hcounters _ (named_of_alert hinfo hn)).trans (or_counter (h.own iface info hinfo hn) _)

theorem AlertsHold.names_setQuotaIface (h : AlertsHold s) (hplain : PlainName iface)
    (new : Option QuotaInfo) :
    ∀ iface' info', (s.setQuotaIface iface new).mQuotaIfaces iface' = some info' →
      PlainName iface' :=
  forall_setQuotaIface (fun _ _ => hplain) fun iface' _ => h.names iface'

theorem AlertsHold.own_setQuota (h : AlertsHold s) {info : QuotaInfo}
    (hinfo : s.mQuotaIfaces iface = some info) (maxBytes : Int) :
    ∀ iface' info', (s.setQuotaIface iface
      (some { info with quota := maxBytes })).mQuotaIfaces iface' = some info' → info'.alert ≠ 0 →
        s.kernel.counters (alertName iface') = some info'.alert := by
  refine forall_setQuotaIface (fun info' hself => ?_) fun iface' _ => h.own iface'
  cases hself
  exact h.own iface info hinfo

theorem quota_keeps (hholds : Holds base4 base6 s) (h : AlertsHold s) (henv : env.Whole)
    (hplain : PlainName iface) (maxBytes : Int) :
    AlertStep base4 base6 (s.setInterfaceQuota env iface maxBytes).1 := by
  have hset := hholds.setInterfaceQuota henv hplain.1 maxBytes
  generalize s.setInterfaceQuota env iface maxBytes = r at hset
  cases hset with
  | reduced hr hres => exact h.reduce hr
  | lost hlost hinfo =>
    exact ⟨hholds.setQuota hinfo maxBytes, h.shared, h.own_setQuota hinfo maxBytes,
      h.names_setQuotaIface hplain _⟩
  | updated hinfo hcounter =>
    refine ⟨(hholds.write hcounter maxBytes).setQuota hinfo maxBytes, ?_, ?_,
      h.names_setQuotaIface hplain _⟩
    · intro hn
      exact (counters_setCounter_of_ne hplain.alertName_ne maxBytes).trans (h.shared hn)
    · intro iface' info' hinfo' hn
      exact (counters_setCounter_of_ne hplain.alertName_ne maxBytes).trans
        (h.own_setQuota hinfo maxBytes iface' info' hinfo' hn)
  | added hinfo hk hcounters =>
    refine ⟨hk, ?_, ?_, h.names_setQuotaIface hplain _⟩
    · intro hn
      exact (hcounters _ (named_of_sharedAlert hn)).trans (or_counter (h.shared hn) _)
    · refine forall_setQuotaIface (fun info' hself hn => ?_) fun iface' hne info' hother hn => ?_
      · cases hself
        exact absurd rfl hn
      · exact (hcounters _ (named_of_alert ((mQuotaIfaces_of_ne hne _).trans hother) hn)).trans
          (or_counter (h.own iface' info' hother hn) _)

/-! ## Setting an alert -/

/-- What comes of `setCostlyAlert` where no alert is in force, or one with the same value. -/
inductive AlertSet (base4 base6 : Multiset (Entry Chain Rule)) (cost : String)
    (bytes alertBytes : Int) (s s' : State) : Kernel × Int × Int → Prop
  | failed {res : Int} (hres : res ≠ 0) :
      AlertSet base4 base6 cost bytes alertBytes s s' (s.kernel, alertBytes, res)
  | kept (hbytes : alertBytes = bytes)
      (hcounter : s.kernel.counters (alertName cost) = some alertBytes) :
      AlertSet base4 base6 cost bytes alertBytes s s' (s.kernel, alertBytes, 0)
  | added {k : Kernel} (halert : alertBytes = 0) (hn : bytes ≠ 0)
      (hk : Holds base4 base6 { s' with kernel := k })
      (hcounters : ∀ name, Named s' name →
        k.counters name = (s.kernel.counters name).or ([(alertName cost, bytes)].lookup name)) :
      AlertSet base4 base6 cost bytes alertBytes s s' (k, bytes, 0)

section

variable (hholds : Holds base4 base6 s)
include hholds

theorem Holds.setCostlyAlert (henv : env.Whole) (cost : String)
    {bytes alertBytes : Int} (hsame : alertBytes = 0 ∨ bytes = alertBytes)
    (hcurrent : alertBytes ≠ 0 → s.kernel.counters (alertName cost) = some alertBytes)
    (hmoves : alertBytes = 0 → bytes ≠ 0 →
      Moves [.append (.costly cost) (.alert (alertName cost))] s s') :
    AlertSet base4 base6 cost bytes alertBytes s s'
      (s.kernel.setCostlyAlert env cost bytes alertBytes) := by
  unfold Kernel.setCostlyAlert
  cases hname : isIfaceName cost with
  | false => exact .failed (by decide)
  | true =>
    by_cases hn : bytes = 0
    · rw [if_pos hn]
      exact .failed (by decide)
    rw [if_neg hn]
    by_cases halert : alertBytes = 0
    · rw [if_neg (not_not.mpr halert)]
      rcases hholds.restore ⟨_, [(alertName cost, bytes)]⟩ (hmoves halert hn)
        henv.alertRule with ⟨-, heq⟩ | ⟨k, heq, hk, hcounters⟩
      · simp only [heq]
        exact .failed (by decide)
      · simp only [heq]
        exact .added halert hn hk hcounters
    · rw [if_pos halert]
      have hbytes : bytes = alertBytes := hsame.resolve_left halert
      subst hbytes
      have hcounter := hcurrent halert
      have hupdated := updated_updateQuota henv.fopen s.kernel (alertName cost) bytes
      generalize s.kernel.updateQuota env (alertName cost) bytes = r at hupdated
      cases hupdated with
      | failed hres =>
        simp only [if_neg hres]
        exact .failed hres
      | lost _ => exact .kept rfl hcounter
      | set _ =>
        -- the counter has the value already
        rw [Kernel.setCounter, ← hcounter, Function.update_eq_self]
        exact .kept rfl hcounter

theorem sharedAlert_step (h : AlertsHold s) (henv : env.Whole)
    {bytes : Int} (hsame : s.mSharedAlertBytes = 0 ∨ bytes = s.mSharedAlertBytes) :
    AlertStep base4 base6 (s.setSharedAlert env bytes).1 ∧
      AlertHonoured (.setSharedAlert bytes) (s.setSharedAlert env bytes) := by
  unfold State.setSharedAlert
  by_cases hquota : s.mSharedQuotaBytes = 0
  · rw [if_pos hquota]
    exact ⟨⟨hholds, h⟩, fun hres => by cases hres⟩
  rw [if_neg hquota]
  by_cases hn : bytes = 0
  · rw [if_pos hn]
    exact ⟨⟨hholds, h⟩, fun hres => by cases hres⟩
  rw [if_neg hn]
  have hset := hholds.setCostlyAlert henv sharedCost hsame h.shared
    fun halert hn => moves_addSharedAlert halert hn
  generalize s.kernel.setCostlyAlert env sharedCost bytes s.mSharedAlertBytes = r at hset
  cases hset with
  | failed hres => exact ⟨⟨hholds, h⟩, fun hres' => absurd hres' hres⟩
  | kept hbytes hcounter => exact ⟨⟨hholds, h⟩, fun _ => ⟨hbytes ▸ hcounter, hbytes⟩⟩
  | @added k halert _ hk hcounters =>
    have hcounter : k.counters (alertName sharedCost) = some bytes := by
      rw [hcounters _ (named_of_sharedAlert hn),
        h.counter_eq_none hholds (fun _ => halert) fun info hinfo => by
          rw [hholds.v4.shared] at hinfo
          cases hinfo]
      simp
    refine ⟨⟨hk, ⟨fun _ => hcounter, ?_, h.names⟩⟩, fun _ => ⟨hcounter, rfl⟩⟩
    intro iface info hinfo hn'
    exact (hcounters _ (named_of_alert hinfo hn')).trans (or_counter (h.own iface info hinfo hn') _)

theorem interfaceAlert_step (h : AlertsHold s) (henv : env.Whole) {bytes : Int}
    (hsame : ∀ info, s.mQuotaIfaces iface = some info → info.alert = 0 ∨ bytes = info.alert) :
    AlertStep base4 base6 (s.setInterfaceAlert env iface bytes).1 ∧
      AlertHonoured (.setInterfaceAlert iface bytes) (s.setInterfaceAlert env iface bytes) := by
  unfold State.setInterfaceAlert
  cases hname : isIfaceName iface with
  | false => exact ⟨⟨hholds, h⟩, fun hres => by cases hres⟩
  | true =>
    by_cases hn : bytes = 0
    · rw [if_pos hn]
      exact ⟨⟨hholds, h⟩, fun hres => by cases hres⟩
    rw [if_neg hn]
    cases hinfo : s.mQuotaIfaces iface with
    | none => exact ⟨⟨hholds, h⟩, fun hres => by cases hres⟩
    | some info =>
      have hset := hholds.setCostlyAlert henv iface (hsame info hinfo)
        (h.own iface info hinfo) fun halert hn => moves_addAlert hinfo halert hn
      simp only
      generalize s.kernel.setCostlyAlert env iface bytes info.alert = r at hset
      have hself : AlertStep base4 base6 (s.setQuotaIface iface (some info)) := by
        rw [setQuotaIface_eq_self hinfo]
        exact ⟨hholds, h⟩
      cases hset with
      | failed hres => exact ⟨hself, fun hres' => absurd hres' hres⟩
      | kept hbytes hcounter =>
        exact ⟨hself, fun _ => ⟨hbytes ▸ hcounter, info, mQuotaIfaces_self _, hbytes⟩⟩
      | @added k halert _ hk hcounters =>
        have hplain := h.names iface info hinfo
        have hcounter : k.counters (alertName iface) = some bytes := by
          rw [hcounters _ (named_of_alert (mQuotaIfaces_self _) hn),
            h.counter_eq_none hholds (fun heq => absurd heq hplain.1) fun info' hinfo' => by
              rw [hinfo] at hinfo'
              cases hinfo'
              exact halert]
          simp
        refine ⟨⟨hk, ⟨?_, ?_, h.names_setQuotaIface hplain _⟩⟩,
          fun _ => ⟨hcounter, _, mQuotaIfaces_self _, rfl⟩⟩
        · intro hshared
          exact (hcounters _ (named_of_sharedAlert hshared)).trans (or_counter (h.shared hshared) _)
        · refine forall_setQuotaIface (fun info' hnew _ => ?_) fun iface' hne info' hother hn => ?_
          · cases hnew
            exact hcounter
          · exact (hcounters _ (named_of_alert ((mQuotaIfaces_of_ne hne _).trans hother) hn)).trans
              (or_counter (h.own iface' info' hother hn) _)

end

/-! ## Runs -/

/-- The interface of a quota has its own name, and an alert is set where none is in force, or the
same one is. -/
def AlertCall (s : State) (e : Event) : Prop :=
  e.env.Whole ∧
    match e.call with
    | .setInterfaceQuota iface _ => PlainName iface
    | .setSharedAlert bytes => s.mSharedAlertBytes = 0 ∨ bytes = s.mSharedAlertBytes
    | .setInterfaceAlert iface bytes =>
      ∀ info ∈ s.mQuotaIfaces iface, info.alert = 0 ∨ bytes = info.alert
    | .setInterfaceSharedQuota _ _ | .removeInterfaceSharedQuota _ | .removeInterfaceQuota _
    | .removeSharedAlert | .removeInterfaceAlert _ => True

instance decidableWhole (env : Env) : Decidable env.Whole :=
  decidable_of_iff (env.quotaRules.v4 = env.quotaRules.v6 ∧ env.alertRule.v4 = env.alertRule.v6 ∧
    env.fopen ≠ some 0)
    ⟨fun h => ⟨h.1, h.2.1, h.2.2⟩, fun h => ⟨h.quotaRules, h.alertRule, h.fopen⟩⟩

instance decidableAlertCall (s : State) (e : Event) : Decidable (AlertCall s e) := by
  obtain ⟨call, env⟩ := e
  unfold AlertCall
  cases call <;> infer_instance

theorem alertStep_run (hholds : Holds base4 base6 s) (h : AlertsHold s) {e : Event}
    (hok : AlertCall s e) :
    AlertStep base4 base6 (e.call.run e.env s).1 ∧ AlertHonoured e.call (e.call.run e.env s) := by
  obtain ⟨call, env⟩ := e
  obtain ⟨henv, hcall⟩ := hok
  cases call with
  | setInterfaceSharedQuota iface maxBytes =>
    exact ⟨sharedQuota_keeps hholds h henv iface maxBytes, trivial⟩
  | setInterfaceQuota iface maxBytes => exact ⟨quota_keeps hholds h henv hcall maxBytes, trivial⟩
  | removeInterfaceSharedQuota iface =>
    exact ⟨h.reduce (hholds.removeInterfaceSharedQuota henv iface), trivial⟩
  | removeInterfaceQuota iface =>
    exact ⟨h.reduce (hholds.removeInterfaceQuota henv iface), trivial⟩
  | setSharedAlert bytes => exact sharedAlert_step hholds h henv hcall
  | removeSharedAlert => exact ⟨h.reduce (hholds.removeSharedAlert henv).1, trivial⟩
  | setInterfaceAlert iface bytes => exact interfaceAlert_step hholds h henv hcall
  | removeInterfaceAlert iface =>
    exact ⟨h.reduce (hholds.removeInterfaceAlert henv iface), trivial⟩

theorem alerts_run {v4 v6 : Table Chain Rule} (h4 : Base v4) (h6 : Base v6) {h : List Event}
    (hrun : Lts.Run step AlertCall (init v4 v6) h s) : AlertStep v4.view.rules v6.view.rules s := by
  refine hrun.invariant (I := fun _ s => AlertStep v4.view.rules v6.view.rules s)
    ⟨holds_init h4 h6, fun hn => absurd rfl hn, fun _ _ h => (by cases h),
      fun _ _ h => (by cases h)⟩ fun {_ s e s'} hinv hok hs => ?_
  cases hs
  exact (alertStep_run hinv.holds hinv.alerts hok).1

/-- **Alerts in the kernel equal the requested ones** over every run of such calls: after a success
the counter and the record have its value. -/
theorem alerts_as_requested {v4 v6 : Table Chain Rule} (h4 : Base v4) (h6 : Base v6)
    {h : List Event} {s : State} (hrun : Lts.Run step AlertCall (init v4 v6) h s) {e : Event}
    (hok : AlertCall s e) : AlertHonoured e.call (e.call.run e.env s) :=
  have hinv := alerts_run h4 h6 hrun
  (alertStep_run hinv.holds hinv.alerts hok).2

theorem alerts_as_requested_sample :
    ∃ h s e, Lts.Run step AlertCall (init sampleTable sampleTable) h s ∧ AlertCall s e ∧
      AlertHonoured e.call (e.call.run e.env s) := by
  obtain ⟨s, hrun, hok⟩ : ∃ s, Lts.Run step AlertCall (init sampleTable sampleTable) _ s ∧
      AlertCall s ⟨.setInterfaceAlert "wlan0" 700, .clean⟩ :=
    Lts.run_of_mem [⟨.setInterfaceQuota "wlan0" 1000, .clean⟩,
      ⟨.setInterfaceAlert "wlan0" 500, .clean⟩, ⟨.removeInterfaceAlert "wlan0", .clean⟩]
      (by decide +kernel)
  exact ⟨_, s, _, hrun, hok, alerts_as_requested base_sampleTable base_sampleTable hrun hok⟩

/-- An alert is replaced. Both calls succeed, but the counter has the first value. -/
theorem replaced_alert_not_set : let s₀ := init sampleTable sampleTable
    let r₁ := s₀.setInterfaceQuota .clean "wlan0" 1000
    let r₂ := r₁.1.setInterfaceAlert .clean "wlan0" 500
    let r₃ := r₂.1.setInterfaceAlert .clean "wlan0" 700
    r₁.2 = 0 ∧ r₂.2 = 0 ∧ r₃.2 = 0 ∧ r₃.1.mQuotaIfaces "wlan0" = some ⟨1000, 700⟩ ∧
      r₃.1.kernel.counters (alertName "wlan0") = some 500 := by
  decide +kernel

end Netd.Bandwidth
