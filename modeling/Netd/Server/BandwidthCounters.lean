import Netd.Server.BandwidthRules

/-!
# The counters of quotas and alerts

A counter is there as long as the records need it (`Named`, `Holds`). `Shrinks` is what failing
and removing calls have in common: nothing is recorded that was not, and what is still recorded has
its values and its counters.
-/

namespace Netd.Bandwidth

open RuleTable List Kernel Option State

/-- A rule by the records names the counter. -/
def Named (s : State) (name : String) : Prop :=
  s.mSharedQuotaIfaces ≠ ∅ ∧ name = sharedCost ∨
    s.mSharedAlertBytes ≠ 0 ∧ name = alertName sharedCost ∨
    s.mQuotaIfaces name ≠ none ∨
    ∃ iface info, s.mQuotaIfaces iface = some info ∧ info.alert ≠ 0 ∧ name = alertName iface

/-- Both families fit the records, and there are no other counters. -/
structure Holds (base4 base6 : Multiset (Entry Chain Rule)) (s : State) : Prop where
  v4 : Fits base4 s s.kernel.v4.view
  v6 : Fits base6 s s.kernel.v6.view
  unnamed : ∀ name, ¬ Named s name → s.kernel.counters name = none

variable {base base4 base6 : Multiset (Entry Chain Rule)} {s s' s'' : State}
  {v : View Chain Rule} {k : Kernel} {sec : Section} {env : Env} {o : Outcome}
  {iface cost name : String} {x : Entry Chain Rule}

theorem Fits.congr (hfits : Fits base s v) (hshared : s'.mSharedQuotaIfaces = s.mSharedQuotaIfaces)
    (halert : s'.mSharedAlertBytes = s.mSharedAlertBytes)
    (hquota : s'.mQuotaIfaces = s.mQuotaIfaces) : Fits base s' v := by
  have hparts : parts base s' = parts base s := by
    funext o
    cases o <;> simp only [parts, hshared, halert, hquota]
  exact ⟨hparts ▸ hfits.rules, hfits.plain, hquota ▸ hfits.chain, hquota ▸ hfits.shared⟩

theorem named_of_shared (hne : s.mSharedQuotaIfaces ≠ ∅) : Named s sharedCost := .inl ⟨hne, rfl⟩

theorem named_of_sharedAlert (hn : s.mSharedAlertBytes ≠ 0) : Named s (alertName sharedCost) :=
  .inr (.inl ⟨hn, rfl⟩)

variable {info : QuotaInfo} {n : Int} {t : Table Chain Rule}

theorem named_of_quota (hinfo : s.mQuotaIfaces name = some info) : Named s name :=
  .inr (.inr (.inl (by simp [hinfo])))

theorem named_of_alert (hinfo : s.mQuotaIfaces iface = some info) (hn : info.alert ≠ 0) :
    Named s (alertName iface) :=
  .inr (.inr (.inr ⟨iface, info, hinfo, hn, rfl⟩))

/-! ## The counters that rules name -/

theorem counter_jumps (hx : x ∈ jumps iface cost) : x.rule.counter = none := by
  simp only [jumps, mem_cons, not_mem_nil, or_false] at hx
  rcases hx with rfl | rfl | rfl | rfl <;> rfl

theorem counter_alertPart (hx : x ∈ alertPart cost n) :
    n ≠ 0 ∧ x.rule.counter = some (alertName cost) := by
  unfold alertPart at hx
  split at hx
  · cases hx
  rename_i hn
  rw [mem_singleton.mp hx]
  exact ⟨hn, rfl⟩

theorem counter_chainPart (hx : x ∈ chainPart iface info) (hname : x.rule.counter = some name) :
    name = iface ∨ info.alert ≠ 0 ∧ name = alertName iface := by
  simp only [chainPart, mem_append, mem_cons, not_mem_nil, or_false] at hx
  rcases hx with hx | rfl | rfl
  · obtain ⟨hn, hcounter⟩ := counter_alertPart hx
    rw [hcounter] at hname
    exact .inr ⟨hn, (some.inj hname).symm⟩
  · exact .inl (some.inj hname).symm
  · cases hname

theorem Fits.named_of_mem (hfits : Fits base s v) (hx : x ∈ v.rules)
    (hname : x.rule.counter = some name) : Named s name := by
  have hpart := hfits.rules.mem hx
  cases hown : owner x with
  | base =>
    rw [hown] at hpart
    rcases hfits.plain x hpart with hrule | hrule <;> rw [hrule] at hname <;> cases hname
  | share iface =>
    rw [hown] at hpart
    rw [counter_jumps (mem_jumps_of_sharePart hpart)] at hname
    cases hname
  | sharedQuota =>
    rw [hown] at hpart
    have hne : s.mSharedQuotaIfaces ≠ ∅ := by
      intro hempty
      simp only [parts, sharedPart, if_pos hempty] at hpart
      cases hpart
    rw [eq_of_mem_sharedPart hpart] at hname
    exact some.inj hname ▸ named_of_shared hne
  | sharedAlert =>
    rw [hown] at hpart
    obtain ⟨hn, hcounter⟩ := counter_alertPart hpart
    rw [hcounter] at hname
    exact some.inj hname ▸ named_of_sharedAlert hn
  | quota iface =>
    rw [hown] at hpart
    simp only [parts] at hpart
    cases hinfo : s.mQuotaIfaces iface with
    | none =>
      rw [hinfo] at hpart
      cases hpart
    | some info =>
      rw [hinfo, coe_quotaPart] at hpart
      rcases Multiset.mem_add.mp hpart with hjump | hchain
      · rw [counter_jumps hjump] at hname
        cases hname
      rcases counter_chainPart hchain hname with rfl | ⟨hn, rfl⟩
      · exact named_of_quota hinfo
      · exact named_of_alert hinfo hn

theorem Fits.mem_of_named (hfits : Fits base s v) (hname : Named s name) :
    ∃ x ∈ v.rules, x.rule.counter = some name := by
  have hmem : ∀ {o y}, y ∈ parts base s o → y ∈ v.rules := fun hy => (hfits.rules.mem_iff.mp hy).1
  rcases hname with ⟨hne, rfl⟩ | ⟨hn, rfl⟩ | hsome | ⟨iface, info, hinfo, hn, rfl⟩
  · refine ⟨⟨.costly sharedCost, .quota sharedCost⟩, hmem (o := .sharedQuota) ?_, rfl⟩
    simp [parts, sharedPart, hne]
  · refine ⟨⟨.costly sharedCost, .alert (alertName sharedCost)⟩, hmem (o := .sharedAlert) ?_, rfl⟩
    simp [parts, alertPart, hn]
  · obtain ⟨info, hinfo⟩ := ne_none_iff_exists'.mp hsome
    refine ⟨⟨.costly name, .quota name⟩, hmem (o := .quota name) ?_, rfl⟩
    simp [parts, hinfo, quotaPart]
  · refine ⟨⟨.costly iface, .alert (alertName iface)⟩, hmem (o := .quota iface) ?_, rfl⟩
    simp [parts, hinfo, quotaPart, alertPart, hn]

/-! ## Commands -/

theorem refers_iff : k.refers name = true ↔
    (∃ x ∈ k.v4.view.rules, x.rule.counter = some name) ∨
      ∃ x ∈ k.v6.view.rules, x.rule.counter = some name := by
  simp [refers, Table.view]

theorem iptablesRestore_ok {t4 t6 : Table Chain Rule}
    (h4 : commit Rule.target sec.lines k.v4 = some t4)
    (h6 : commit Rule.target sec.lines k.v6 = some t6) :
    k.iptablesRestore sec ⟨false, false⟩ =
      (settle sec.quotas
        { settle sec.quotas { k with v4 := t4 } with v6 := t6 }, 0) := by
  simp [iptablesRestore, restoreV4, restoreV6, restoreTable, h4, h6, settle]

/-- A command that makes the tables fit new records, or fails and changes nothing. -/
theorem Holds.restore (h : Holds base4 base6 s) (sec : Section) (hmoves : Moves sec.lines s s')
    (hwhole : o.v4 = o.v6) :
    o.v4 = true ∧ s.kernel.iptablesRestore sec o = (s.kernel, -1) ∨
      ∃ k, s.kernel.iptablesRestore sec o = (k, 0) ∧ Holds base4 base6 { s' with kernel := k } ∧
        ∀ name, Named s' name →
          k.counters name = (s.kernel.counters name).or (sec.quotas.lookup name) := by
  obtain ⟨f4, f6⟩ := o
  cases hwhole
  cases f4 with
  | true => exact .inl ⟨rfl, rfl⟩
  | false =>
    right
    obtain ⟨v4, hv4, hfits4⟩ := hmoves h.v4
    obtain ⟨v6, hv6, hfits6⟩ := hmoves h.v6
    obtain ⟨t4, ht4, rfl⟩ := exists_commit hv4
    obtain ⟨t6, ht6, rfl⟩ := exists_commit hv6
    refine ⟨_, iptablesRestore_ok ht4 ht6,
      ⟨hfits4.congr rfl rfl rfl, hfits6.congr rfl rfl rfl, fun name hname => ?_⟩,
      fun name hname => ?_⟩
    · have hrefers : ¬ (Kernel.mk t4 t6 s.kernel.counters).refers name = true := by
        rw [refers_iff]
        rintro (⟨x, hx, hcounter⟩ | ⟨x, hx, hcounter⟩)
        · exact hname (hfits4.named_of_mem hx hcounter)
        · exact hname (hfits6.named_of_mem hx hcounter)
      exact if_neg hrefers
    · have hfirst : (Kernel.mk t4 s.kernel.v6 s.kernel.counters).refers name = true :=
        refers_iff.mpr (.inl (hfits4.mem_of_named hname))
      have hsecond : (Kernel.mk t4 t6 s.kernel.counters).refers name = true :=
        refers_iff.mpr (.inl (hfits4.mem_of_named hname))
      change (if (Kernel.mk t4 t6 s.kernel.counters).refers name = true then
        (if (Kernel.mk t4 s.kernel.v6 s.kernel.counters).refers name = true then
          (s.kernel.counters name).or (sec.quotas.lookup name) else none).or
            (sec.quotas.lookup name) else none) = _
      rw [if_pos hsecond, if_pos hfirst, Option.or_assoc, Option.or_self]

/-! ## Calls that take away -/

/-- Nothing is recorded that was not, and what is still recorded has its values and counters. -/
structure Shrinks (s s' : State) : Prop where
  quota : ∀ iface info', s'.mQuotaIfaces iface = some info' → ∃ info,
    s.mQuotaIfaces iface = some info ∧ info'.quota = info.quota ∧
      (info'.alert = 0 ∨ info'.alert = info.alert)
  alert : s'.mSharedAlertBytes = 0 ∨ s'.mSharedAlertBytes = s.mSharedAlertBytes
  shared : s'.mSharedQuotaIfaces ≠ ∅ →
    s.mSharedQuotaIfaces ≠ ∅ ∧ s'.mSharedQuotaBytes = s.mSharedQuotaBytes
  counters : ∀ name, Named s' name → s'.kernel.counters name = s.kernel.counters name

theorem Shrinks.refl (s : State) : Shrinks s s where
  quota _ info hinfo := ⟨info, hinfo, rfl, .inr rfl⟩
  alert := .inr rfl
  shared h := ⟨h, rfl⟩
  counters _ _ := rfl

theorem Shrinks.named (h : Shrinks s s') (hname : Named s' name) : Named s name := by
  rcases hname with ⟨hne, rfl⟩ | ⟨hn, rfl⟩ | hsome | ⟨iface, info', hinfo', hn, rfl⟩
  · exact named_of_shared (h.shared hne).1
  · refine named_of_sharedAlert ?_
    rwa [← h.alert.resolve_left hn]
  · obtain ⟨info', hinfo'⟩ := ne_none_iff_exists'.mp hsome
    obtain ⟨info, hinfo, -⟩ := h.quota name info' hinfo'
    exact named_of_quota hinfo
  obtain ⟨info, hinfo, -, halert⟩ := h.quota iface info' hinfo'
  refine named_of_alert hinfo ?_
  rwa [← halert.resolve_left hn]

theorem Shrinks.trans (h : Shrinks s s') (h' : Shrinks s' s'') : Shrinks s s'' where
  quota iface info'' hinfo'' := by
    obtain ⟨info', hinfo', hquota', halert'⟩ := h'.quota iface info'' hinfo''
    obtain ⟨info, hinfo, hquota, halert⟩ := h.quota iface info' hinfo'
    refine ⟨info, hinfo, hquota'.trans hquota, ?_⟩
    rcases halert' with hzero | hsame
    · exact .inl hzero
    · exact halert.imp hsame.trans hsame.trans
  alert := by
    rcases h'.alert with hzero | hsame
    · exact .inl hzero
    · exact h.alert.imp hsame.trans hsame.trans
  shared hne := by
    obtain ⟨hne', hbytes'⟩ := h'.shared hne
    obtain ⟨hne'', hbytes⟩ := h.shared hne'
    exact ⟨hne'', hbytes'.trans hbytes⟩
  counters name hname := (h'.counters name hname).trans (h.counters name (h'.named hname))

/-- A command fails in both families or in none, and a file that cannot be opened has a reason. -/
structure Env.Whole (env : Env) : Prop where
  quotaRules : env.quotaRules.v4 = env.quotaRules.v6
  alertRule : env.alertRule.v4 = env.alertRule.v6
  fopen : env.fopen ≠ some 0

/-- Commands and files do not fail. -/
def Env.clean : Env := ⟨⟨false, false⟩, ⟨false, false⟩, none, false⟩

theorem whole_clean : Env.clean.Whole := ⟨rfl, rfl, by simp [Env.clean]⟩

/-- The state is one that a call may leave behind that fails or takes away. -/
structure Reduces (base4 base6 : Multiset (Entry Chain Rule)) (s s' : State) : Prop where
  holds : Holds base4 base6 s'
  shrinks : Shrinks s s'

theorem Holds.reduces (h : Holds base4 base6 s) : Reduces base4 base6 s s := ⟨h, .refl s⟩

theorem Reduces.trans (h : Reduces base4 base6 s s') (h' : Reduces base4 base6 s' s'') :
    Reduces base4 base6 s s'' :=
  ⟨h'.holds, h.shrinks.trans h'.shrinks⟩

theorem isIfaceName_sharedCost : isIfaceName sharedCost = true := by decide +kernel

theorem Holds.congr (h : Holds base4 base6 s)
    (hshared : s'.mSharedQuotaIfaces = s.mSharedQuotaIfaces)
    (halert : s'.mSharedAlertBytes = s.mSharedAlertBytes)
    (hquota : s'.mQuotaIfaces = s.mQuotaIfaces) (hkernel : s'.kernel = s.kernel) :
    Holds base4 base6 s' := by
  refine ⟨?_, ?_, fun name hname => ?_⟩
  · rw [hkernel]
    exact h.v4.congr hshared halert hquota
  · rw [hkernel]
    exact h.v6.congr hshared halert hquota
  · rw [hkernel]
    refine h.unnamed name ?_
    rwa [Named, ← hshared, ← halert, ← hquota]

/-- A command that takes away. -/
theorem Holds.reduce (h : Holds base4 base6 s) {lines : List (Line Chain Rule)}
    (hmoves : Moves lines s s') (hwhole : o.v4 = o.v6)
    (hquota : ∀ iface info', s'.mQuotaIfaces iface = some info' → ∃ info,
      s.mQuotaIfaces iface = some info ∧ info'.quota = info.quota ∧
        (info'.alert = 0 ∨ info'.alert = info.alert))
    (halert : s'.mSharedAlertBytes = 0 ∨ s'.mSharedAlertBytes = s.mSharedAlertBytes)
    (hshared : s'.mSharedQuotaIfaces ≠ ∅ →
      s.mSharedQuotaIfaces ≠ ∅ ∧ s'.mSharedQuotaBytes = s.mSharedQuotaBytes) :
    s.kernel.iptablesRestore ⟨lines, []⟩ o = (s.kernel, -1) ∨
      ∃ k, s.kernel.iptablesRestore ⟨lines, []⟩ o = (k, 0) ∧
        Reduces base4 base6 s { s' with kernel := k } := by
  rcases h.restore ⟨lines, []⟩ hmoves hwhole with ⟨-, heq⟩ | ⟨k, heq, hk, hcounters⟩
  · exact .inl heq
  · refine .inr ⟨k, heq, hk, ⟨hquota, halert, hshared, fun name hname => ?_⟩⟩
    exact (hcounters name hname).trans or_none

theorem removeCostlyAlert_none (hcost : isIfaceName cost = true) (hn : n = 0) :
    k.removeCostlyAlert env cost n = (k, n, -Errno.enoent) := by
  simp [removeCostlyAlert, hcost, hn]

theorem removeCostlyAlert_some (hcost : isIfaceName cost = true) {res : Int} (hn : n ≠ 0)
    {k' : Kernel} (heq : k.iptablesRestore
      ⟨[.delete (.costly cost) (.alert (alertName cost))], []⟩ env.alertRule = (k', res)) :
    k.removeCostlyAlert env cost n = if res ≠ 0 then (k', n, -Errno.eremoteio) else (k', 0, 0) := by
  simp [removeCostlyAlert, hcost, hn, heq]

theorem Holds.removeSharedAlert (h : Holds base4 base6 s) (henv : env.Whole) :
    Reduces base4 base6 s (s.removeSharedAlert env).1 ∧
      ((s.removeSharedAlert env).2 = 0 → (s.removeSharedAlert env).1.mSharedAlertBytes = 0) := by
  unfold State.removeSharedAlert
  by_cases halert : s.mSharedAlertBytes = 0
  · rw [removeCostlyAlert_none isIfaceName_sharedCost halert]
    exact ⟨h.reduces, fun _ => halert⟩
  rcases h.reduce (moves_deleteSharedAlert halert) henv.alertRule (Shrinks.refl s).quota
    (.inl rfl) (Shrinks.refl s).shared with heq | ⟨k, heq, hk⟩
  · rw [removeCostlyAlert_some isIfaceName_sharedCost halert heq]
    exact ⟨h.reduces, fun hres => by cases hres⟩
  · rw [removeCostlyAlert_some isIfaceName_sharedCost halert heq]
    exact ⟨hk, fun _ => rfl⟩

theorem setQuotaIface_eq_self {info : Option QuotaInfo} (hinfo : s.mQuotaIfaces iface = info) :
    s.setQuotaIface iface info = s := by
  rw [← hinfo, setQuotaIface, Function.update_eq_self]

theorem sharedAlert_eq_self (hn : s.mSharedAlertBytes = n) :
    { s with mSharedAlertBytes := n } = s := by
  rw [← hn]

/-- An entry that goes away or changes its alert to none. -/
theorem shrink_setQuotaIface (hinfo : s.mQuotaIfaces iface = some info) {new : Option QuotaInfo}
    (hnew : ∀ info' ∈ new, info'.quota = info.quota ∧
      (info'.alert = 0 ∨ info'.alert = info.alert)) :
    ∀ iface' info', (s.setQuotaIface iface new).mQuotaIfaces iface' = some info' → ∃ info,
      s.mQuotaIfaces iface' = some info ∧ info'.quota = info.quota ∧
        (info'.alert = 0 ∨ info'.alert = info.alert) :=
  forall_setQuotaIface (fun info' hself => ⟨info, hinfo, hnew info' hself⟩)
    fun _ _ info' hother => ⟨info', hother, rfl, .inr rfl⟩

theorem Holds.removeInterfaceAlert (h : Holds base4 base6 s) (henv : env.Whole) (iface : String) :
    Reduces base4 base6 s (s.removeInterfaceAlert env iface).1 := by
  unfold State.removeInterfaceAlert
  cases hname : isIfaceName iface with
  | false => exact h.reduces
  | true =>
    cases hinfo : s.mQuotaIfaces iface with
    | none => exact h.reduces
    | some info =>
      have hsame : Reduces base4 base6 s (s.setQuotaIface iface (some info)) := by
        rw [setQuotaIface_eq_self hinfo]
        exact h.reduces
      by_cases halert : info.alert = 0
      · simp only [removeCostlyAlert_none hname halert]
        exact hsame
      rcases h.reduce (moves_deleteAlert hinfo halert) henv.alertRule
        (shrink_setQuotaIface hinfo (by simp)) (.inr rfl) (Shrinks.refl s).shared with
        heq | ⟨k, heq, hk⟩
      · simp only [removeCostlyAlert_some hname halert heq]
        exact hsame
      · simp only [removeCostlyAlert_some hname halert heq]
        exact hk

theorem Holds.removeInterfaceQuota (h : Holds base4 base6 s) (henv : env.Whole) (iface : String) :
    Reduces base4 base6 s (s.removeInterfaceQuota env iface).1 := by
  unfold State.removeInterfaceQuota
  cases hname : isIfaceName iface with
  | false => exact h.reduces
  | true =>
    cases hinfo : s.mQuotaIfaces iface with
    | none => exact h.reduces
    | some info =>
      rcases h.reduce (moves_removeQuota hinfo) henv.quotaRules
        (shrink_setQuotaIface hinfo (by simp)) (.inr rfl) (Shrinks.refl s).shared with
        heq | ⟨k, heq, hk⟩
      · change s.kernel.iptablesRestore (unquotaSection iface) _ = _ at heq
        simp only [heq]
        exact h.reduces
      · change s.kernel.iptablesRestore (unquotaSection iface) _ = _ at heq
        simp only [heq]
        exact hk

theorem Reduces.clear (h : Reduces base4 base6 s s') (hempty : s'.mSharedQuotaIfaces = ∅) :
    Reduces base4 base6 s { s' with mSharedQuotaBytes := 0 } :=
  ⟨h.holds.congr rfl rfl rfl rfl,
    { quota := h.shrinks.quota
      alert := h.shrinks.alert
      shared := fun hne => absurd hempty hne
      counters := h.shrinks.counters }⟩

theorem Holds.removeInterfaceSharedQuota (h : Holds base4 base6 s) (henv : env.Whole)
    (iface : String) : Reduces base4 base6 s (s.removeInterfaceSharedQuota env iface).1 := by
  unfold State.removeInterfaceSharedQuota
  cases hname : isIfaceName iface with
  | false => exact h.reduces
  | true =>
    by_cases hiface : iface ∈ s.mSharedQuotaIfaces
    · rw [if_neg (by simp), if_neg (not_not.mpr hiface)]
      rcases h.reduce (moves_unshare hiface) henv.quotaRules (Shrinks.refl s).quota (.inr rfl)
        (fun _ => ⟨Finset.ne_empty_of_mem hiface, rfl⟩) with heq | ⟨k, heq, hk⟩
      · change s.kernel.iptablesRestore (s.unshareSection iface) _ = _ at heq
        simp only [heq]
        exact h.reduces
      · change s.kernel.iptablesRestore (s.unshareSection iface) _ = _ at heq
        simp only [heq, ne_eq, not_true_eq_false, if_false]
        by_cases hempty : s.mSharedQuotaIfaces.erase iface = ∅
        · rw [if_pos hempty]
          have hclear := hk.clear hempty
          by_cases halert : s.mSharedAlertBytes = 0
          · rw [if_neg (not_not.mpr halert)]
            exact hclear
          rw [if_pos halert]
          obtain ⟨hr, hzero⟩ := hclear.holds.removeSharedAlert henv
          refine hclear.trans ?_
          -- on success `mSharedAlertBytes` is set to zero a second time
          split
          · rename_i hres
            rw [sharedAlert_eq_self (hzero hres)]
            exact hr
          · exact hr
        · rw [if_neg hempty]
          exact hk
    · rw [if_neg (by simp), if_pos hiface]
      exact h.reduces

/-! ## Calls that add -/

/-- What comes of a write to the file of a counter. -/
inductive Updated (k : Kernel) (name : String) (bytes : Int) (lost : Bool) : Kernel × Int → Prop
  | failed {res : Int} (hres : res ≠ 0) : Updated k name bytes lost (k, res)
  | lost (h : lost = true) : Updated k name bytes lost (k, 0)
  | set (h : k.counters name ≠ none) :
      Updated k name bytes lost (k.setCounter name bytes, 0)

theorem updated_updateQuota (henv : env.fopen ≠ some 0) (k : Kernel) (name : String) (bytes : Int) :
    Updated k name bytes env.fprintf (k.updateQuota env name bytes) := by
  unfold updateQuota
  split
  · exact .failed (by decide)
  split
  · exact .failed (by decide)
  · rename_i errno _ herrno
    refine .failed fun hres => henv ?_
    rw [herrno]
    simpa using hres
  · rename_i hcounter _
    split
    · next hlost => exact .lost hlost
    · exact .set (by simp [hcounter])

@[simp] theorem counters_setCounter (bytes : Int) :
    (k.setCounter name bytes).counters name = some bytes := by
  simp [setCounter]

theorem counters_setCounter_of_ne {name' : String} (hne : name' ≠ name) (bytes : Int) :
    (k.setCounter name bytes).counters name' = k.counters name' := by
  simp [setCounter, hne]

theorem Holds.write (h : Holds base4 base6 s) (hname : s.kernel.counters name ≠ none)
    (bytes : Int) : Holds base4 base6 { s with kernel := s.kernel.setCounter name bytes } := by
  refine ⟨h.v4.congr rfl rfl rfl, h.v6.congr rfl rfl rfl, fun name' hname' => ?_⟩
  have hnone := h.unnamed name' hname'
  have hne : name' ≠ name := by
    rintro rfl
    exact hname hnone
  exact (counters_setCounter_of_ne hne bytes).trans hnone

theorem Fits.setQuota (hfits : Fits base s v) (hinfo : s.mQuotaIfaces iface = some info)
    (maxBytes : Int) :
    Fits base (s.setQuotaIface iface (some { info with quota := maxBytes })) v := by
  refine hfits.setQuotaIface (hfits.ne_shared hinfo) ?_ (fun _ _ h => h)
    fun _ => hfits.chain iface (by simp [hinfo])
  have hpart : (quotaPart iface (some { info with quota := maxBytes }) :
      Multiset (Entry Chain Rule)) = parts base s (.quota iface) := by
    simp only [parts, hinfo, quotaPart]
  rw [hpart, Function.update_eq_self]
  exact hfits.rules

theorem Holds.setQuota (h : Holds base4 base6 s) (hinfo : s.mQuotaIfaces iface = some info)
    (maxBytes : Int) :
    Holds base4 base6 (s.setQuotaIface iface (some { info with quota := maxBytes })) := by
  refine ⟨h.v4.setQuota hinfo maxBytes, h.v6.setQuota hinfo maxBytes, fun name hname => ?_⟩
  refine h.unnamed name fun hnamed => hname ?_
  rcases hnamed with hshared | halert | hsome | ⟨iface', info', hinfo', hn, rfl⟩
  · exact .inl hshared
  · exact .inr (.inl halert)
  · refine .inr (.inr (.inl ?_))
    by_cases heq : name = iface
    · subst heq
      simp
    · rwa [mQuotaIfaces_of_ne heq]
  · by_cases heq : iface' = iface
    · subst heq
      rw [hinfo] at hinfo'
      cases hinfo'
      exact named_of_alert (mQuotaIfaces_self _) hn
    · exact named_of_alert ((mQuotaIfaces_of_ne heq _).trans hinfo') hn

/-- What comes of `setInterfaceSharedQuota`. -/
inductive SharedQuotaSet (base4 base6 : Multiset (Entry Chain Rule)) (iface : String)
    (maxBytes : Int) (lost : Bool) (s : State) : State × Int → Prop
  | reduced {s' : State} {res : Int} (hr : Reduces base4 base6 s s')
      (hres : res = 0 → maxBytes = -1 ∨
        s' = s ∧ iface ∈ s.mSharedQuotaIfaces ∧ maxBytes = s.mSharedQuotaBytes) :
      SharedQuotaSet base4 base6 iface maxBytes lost s (s', res)
  | lost (h : lost = true) (hiface : iface ∈ s.mSharedQuotaIfaces) :
      SharedQuotaSet base4 base6 iface maxBytes lost s ({ s with mSharedQuotaBytes := maxBytes }, 0)
  | updated (hiface : iface ∈ s.mSharedQuotaIfaces)
      (hcounter : s.kernel.counters sharedCost ≠ none) :
      SharedQuotaSet base4 base6 iface maxBytes lost s
        ({ s with
            kernel := s.kernel.setCounter sharedCost maxBytes
            mSharedQuotaBytes := maxBytes }, 0)
  | shared {k : Kernel} (hiface : iface ∉ s.mSharedQuotaIfaces)
      (hk : Holds base4 base6 { s with
        kernel := k
        mSharedQuotaBytes := maxBytes
        mSharedQuotaIfaces := insert iface s.mSharedQuotaIfaces })
      (hcounters : ∀ name, Named { s with
        mSharedQuotaIfaces := insert iface s.mSharedQuotaIfaces } name →
          k.counters name = (s.kernel.counters name).or
            ((s.shareSection iface maxBytes).quotas.lookup name)) :
      SharedQuotaSet base4 base6 iface maxBytes lost s
        ({ s with
            kernel := k
            mSharedQuotaBytes := maxBytes
            mSharedQuotaIfaces := insert iface s.mSharedQuotaIfaces }, 0)

theorem Holds.updateSharedQuota (h : Holds base4 base6 s) (henv : env.Whole)
    (hiface : iface ∈ s.mSharedQuotaIfaces) (maxBytes : Int) :
    SharedQuotaSet base4 base6 iface maxBytes env.fprintf s
      (s.updateSharedQuota env iface maxBytes) := by
  unfold State.updateSharedQuota
  by_cases hbytes : maxBytes = s.mSharedQuotaBytes
  · rw [if_neg (not_not.mpr hbytes)]
    exact .reduced h.reduces fun _ => .inr ⟨rfl, hiface, hbytes⟩
  rw [if_pos hbytes]
  have hupdated := updated_updateQuota henv.fopen s.kernel sharedCost maxBytes
  generalize s.kernel.updateQuota env sharedCost maxBytes = r at hupdated
  cases hupdated with
  | failed hres =>
    simp only [if_pos hres]
    exact .reduced (h.removeInterfaceSharedQuota henv iface) fun h => by cases h
  | lost hlost => exact .lost hlost hiface
  | set hcounter => exact .updated hiface hcounter

theorem updateSharedQuota_same (maxBytes : Int) (hbytes : s.mSharedQuotaBytes = maxBytes) :
    s.updateSharedQuota env iface maxBytes = (s, 0) := by
  simp [updateSharedQuota, hbytes]

theorem Holds.setInterfaceSharedQuota (h : Holds base4 base6 s) (henv : env.Whole)
    (iface : String) (maxBytes : Int) :
    SharedQuotaSet base4 base6 iface maxBytes env.fprintf s
      (s.setInterfaceSharedQuota env iface maxBytes) := by
  have href : SharedQuotaSet base4 base6 iface maxBytes env.fprintf s (s, -1) :=
    .reduced h.reduces fun h => by cases h
  unfold State.setInterfaceSharedQuota
  by_cases hzero : maxBytes = 0
  · rw [if_pos hzero]
    exact href
  rw [if_neg hzero]
  cases hname : isIfaceName iface with
  | false => exact href
  | true =>
    by_cases hmin : maxBytes = -1
    · rw [if_pos hmin]
      exact .reduced (h.removeInterfaceSharedQuota henv iface) fun _ => .inl hmin
    rw [if_neg hmin]
    by_cases hiface : iface ∈ s.mSharedQuotaIfaces
    · rw [if_pos hiface]
      exact h.updateSharedQuota henv hiface maxBytes
    rw [if_neg hiface]
    rcases h.restore (s.shareSection iface maxBytes) (moves_share maxBytes hiface)
      henv.quotaRules with ⟨-, heq⟩ | ⟨k, heq, hk, hcounters⟩
    · simp only [heq]
      exact .reduced (h.removeInterfaceSharedQuota henv iface) fun h => by cases h
    · simp only [heq]
      rw [updateSharedQuota_same maxBytes rfl]
      exact .shared hiface (hk.congr rfl rfl rfl rfl) hcounters

/-- What comes of `setInterfaceQuota`. -/
inductive QuotaSet (base4 base6 : Multiset (Entry Chain Rule)) (iface : String) (maxBytes : Int)
    (lost : Bool) (s : State) : State × Int → Prop
  | reduced {s' : State} {res : Int} (hr : Reduces base4 base6 s s')
      (hres : res = 0 → maxBytes = -1) : QuotaSet base4 base6 iface maxBytes lost s (s', res)
  | lost (h : lost = true) {info : QuotaInfo} (hinfo : s.mQuotaIfaces iface = some info) :
      QuotaSet base4 base6 iface maxBytes lost s
        (s.setQuotaIface iface (some { info with quota := maxBytes }), 0)
  | updated {info : QuotaInfo} (hinfo : s.mQuotaIfaces iface = some info)
      (hcounter : s.kernel.counters iface ≠ none) :
      QuotaSet base4 base6 iface maxBytes lost s
        ({ s with kernel := s.kernel.setCounter iface maxBytes }.setQuotaIface iface
          (some { info with quota := maxBytes }), 0)
  | added {k : Kernel} (hinfo : s.mQuotaIfaces iface = none)
      (hk : Holds base4 base6 { s.setQuotaIface iface (some ⟨maxBytes, 0⟩) with kernel := k })
      (hcounters : ∀ name, Named (s.setQuotaIface iface (some ⟨maxBytes, 0⟩)) name →
        k.counters name = (s.kernel.counters name).or ([(iface, maxBytes)].lookup name)) :
      QuotaSet base4 base6 iface maxBytes lost s
        ({ s.setQuotaIface iface (some ⟨maxBytes, 0⟩) with kernel := k }, 0)

theorem Holds.setInterfaceQuota (h : Holds base4 base6 s) (henv : env.Whole)
    (hne : iface ≠ sharedCost) (maxBytes : Int) :
    QuotaSet base4 base6 iface maxBytes env.fprintf s (s.setInterfaceQuota env iface maxBytes) := by
  unfold State.setInterfaceQuota
  cases hname : isIfaceName iface with
  | false => exact .reduced h.reduces fun h => by cases h
  | true =>
    by_cases hzero : maxBytes = 0
    · rw [if_pos hzero]
      exact .reduced h.reduces fun h => by cases h
    rw [if_neg hzero]
    by_cases hmin : maxBytes = -1
    · rw [if_pos hmin]
      exact .reduced (h.removeInterfaceQuota henv iface) fun _ => hmin
    rw [if_neg hmin]
    cases hinfo : s.mQuotaIfaces iface with
    | some info =>
      have hupdated := updated_updateQuota henv.fopen s.kernel iface maxBytes
      generalize s.kernel.updateQuota env iface maxBytes = r at hupdated
      cases hupdated with
      | failed hres =>
        simp only [if_pos hres]
        exact .reduced (h.removeInterfaceQuota henv iface) fun hres' => absurd hres' hres
      | lost hlost => exact .lost hlost hinfo
      | set hcounter => exact .updated hinfo hcounter
    | none =>
      rcases h.restore (s.quotaSection iface maxBytes)
        (moves_addQuota maxBytes hinfo hne) henv.quotaRules with
        ⟨-, heq⟩ | ⟨k, heq, hk, hcounters⟩
      · simp only [heq]
        exact .reduced (h.removeInterfaceQuota henv iface) fun h => by cases h
      · simp only [heq]
        exact .added hinfo hk hcounters

/-! ## The start -/

/-- A table as `enableBandwidthControl` leaves it: no quotas and no alerts. -/
def Base (t : Table Chain Rule) : Prop :=
  ∀ x ∈ t.rules, (x.rule = .penaltyBox ∨ x.rule = .fixed) ∧
    ∀ cost ≠ sharedCost, x.chain ≠ .costly cost

def init (v4 v6 : Table Chain Rule) : State := ⟨0, 0, 0, fun _ => none, ∅, ⟨v4, v6, fun _ => none⟩⟩

theorem Base.owner_eq (hbase : Base t) (hx : x ∈ t.rules) : owner x = .base := by
  obtain ⟨hrule, hchain⟩ := hbase x hx
  obtain ⟨chain, rule⟩ := x
  cases chain with
  | costly cost =>
    have hcost : cost = sharedCost := not_not.mp fun hne => hchain cost hne rfl
    subst hcost
    rcases hrule with hrule | hrule <;> cases hrule <;> simp [owner]
  | bwInput | bwOutput | bwForward | bwPenaltyBox =>
    rcases hrule with hrule | hrule <;> cases hrule <;> rfl

theorem Base.fits (hbase : Base t) (v4 v6 : Table Chain Rule) :
    Fits t.view.rules (init v4 v6) t.view := by
  have hrest : ∀ o, o ≠ .base → t.view.rules.filter (fun x => owner x = o) = 0 := by
    intro o ho
    refine Multiset.filter_eq_nil.mpr fun x hx hown => ho ?_
    rw [← hown]
    exact hbase.owner_eq hx
  refine ⟨fun o => ?_, fun x hx => (hbase x hx).1, fun iface hne => absurd rfl hne, rfl⟩
  cases o with
  | base => exact Multiset.filter_eq_self.mpr fun x hx => hbase.owner_eq hx
  | share iface | sharedQuota | sharedAlert | quota iface => exact hrest _ (by simp)

theorem holds_init {v4 v6 : Table Chain Rule} (h4 : Base v4) (h6 : Base v6) :
    Holds v4.view.rules v6.view.rules (init v4 v6) :=
  ⟨h4.fits v4 v6, h6.fits v4 v6, fun _ _ => rfl⟩

/-- Some of the rules of `enableBandwidthControl`. -/
def sampleTable : Table Chain Rule :=
  ⟨[.bwInput, .bwOutput, .bwForward, .bwPenaltyBox, .costly sharedCost],
    [⟨.bwInput, .fixed⟩, ⟨.bwOutput, .fixed⟩, ⟨.costly sharedCost, .penaltyBox⟩]⟩

theorem base_sampleTable : Base sampleTable := by
  intro x hx
  simp only [sampleTable, mem_cons, not_mem_nil, or_false] at hx
  rcases hx with rfl | rfl | rfl
  · simp
  · simp
  · simpa using fun cost hne => Ne.symm hne

end Netd.Bandwidth
