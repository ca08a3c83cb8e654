import Netd.Server.BandwidthAlerts

/-!
# Quotas equal the configured ones

A quota that is set on an interface sets the counter, by the rule that makes it or by a write to
its file. But for an interface that begins to share the quota while others do,
`setInterfaceSharedQuota` records the value before it compares it with the recorded one, so the
write is left out.
-/

namespace Netd.Bandwidth

open RuleTable

variable {base4 base6 : Multiset (Entry Chain Rule)} {s s' : State} {env : Env}
  {iface : String}

/-- The counters of the quotas have the recorded values, and there are no alerts. -/
structure QuotasHold (s : State) : Prop where
  shared : s.mSharedQuotaIfaces ≠ ∅ → s.kernel.counters sharedCost = some s.mSharedQuotaBytes
  own : ∀ iface info, s.mQuotaIfaces iface = some info → s.kernel.counters iface = some info.quota
  sharedAlert : s.mSharedAlertBytes = 0
  alert : ∀ iface info, s.mQuotaIfaces iface = some info → info.alert = 0

theorem QuotasHold.shrink (h : QuotasHold s) (hs : Shrinks s s') : QuotasHold s' where
  shared hne := by
    obtain ⟨hne', hbytes⟩ := hs.shared hne
    rw [hs.counters sharedCost (named_of_shared hne), h.shared hne', hbytes]
  own iface info' hinfo' := by
    obtain ⟨info, hinfo, hquota, -⟩ := hs.quota iface info' hinfo'
    rw [hs.counters iface (named_of_quota hinfo'), h.own iface info hinfo, hquota]
  sharedAlert := hs.alert.elim id fun hsame => hsame.trans h.sharedAlert
  alert iface info' hinfo' := by
    obtain ⟨info, hinfo, -, halert⟩ := hs.quota iface info' hinfo'
    exact halert.elim id fun hsame => hsame.trans (h.alert iface info hinfo)

theorem QuotasHold.counter_eq_none (h : QuotasHold s) (hholds : Holds base4 base6 s) {name : String}
    (hshared : s.mSharedQuotaIfaces = ∅ ∨ name ≠ sharedCost) (hquota : s.mQuotaIfaces name = none) :
    s.kernel.counters name = none := by
  refine hholds.unnamed name ?_
  rintro (⟨hne, rfl⟩ | ⟨hn, -⟩ | hsome | ⟨iface, info, hinfo, hn, -⟩)
  · exact hshared.elim hne (absurd rfl)
  · exact hn h.sharedAlert
  · exact hsome hquota
  · exact hn (h.alert iface info hinfo)

/-- What the kernel and the records are to be after a call that set a quota. -/
def Honoured : Call → State × Int → Prop
  | .setInterfaceSharedQuota _ n, r => r.2 = 0 → n ≠ -1 →
      r.1.kernel.counters sharedCost = some n ∧ r.1.mSharedQuotaBytes = n
  | .setInterfaceQuota iface n, r => r.2 = 0 → n ≠ -1 →
      r.1.kernel.counters iface = some n ∧
        ∃ info, r.1.mQuotaIfaces iface = some info ∧ info.quota = n
  | _, _ => True

structure QuotaStep (base4 base6 : Multiset (Entry Chain Rule)) (c : Call) (r : State × Int) :
    Prop where
  holds : Holds base4 base6 r.1
  quotas : QuotasHold r.1
  honoured : Honoured c r

theorem sharedQuota_step (hholds : Holds base4 base6 s) (h : QuotasHold s) (maxBytes : Int)
    (hjoin : maxBytes ≠ 0 → maxBytes ≠ -1 → isIfaceName iface = true →
      iface ∉ s.mSharedQuotaIfaces → s.mSharedQuotaIfaces ≠ ∅ → maxBytes = s.mSharedQuotaBytes) :
    QuotaStep base4 base6 (.setInterfaceSharedQuota iface maxBytes)
      (s.setInterfaceSharedQuota .clean iface maxBytes) := by
  by_cases hfails : iface ∉ s.mSharedQuotaIfaces ∧
      (maxBytes = 0 ∨ maxBytes = -1 ∨ isIfaceName iface = false)
  · -- nothing is set, and there is nothing to remove
    have hsame : s.setInterfaceSharedQuota .clean iface maxBytes = (s, -1) := by
      grind [State.setInterfaceSharedQuota, State.removeInterfaceSharedQuota]
    rw [hsame]
    exact ⟨hholds, h, fun hzero => by cases hzero⟩
  replace hjoin : iface ∉ s.mSharedQuotaIfaces → s.mSharedQuotaIfaces ≠ ∅ →
      maxBytes = s.mSharedQuotaBytes := by
    grind
  have hset := hholds.setInterfaceSharedQuota whole_clean iface maxBytes
  generalize s.setInterfaceSharedQuota .clean iface maxBytes = r at hset
  cases hset with
  | reduced hr hres =>
    refine ⟨hr.holds, h.shrink hr.shrinks, fun hzero hmin => ?_⟩
    obtain ⟨rfl, hiface, hbytes⟩ := (hres hzero).resolve_left hmin
    exact ⟨(h.shared (Finset.ne_empty_of_mem hiface)).trans (congrArg some hbytes.symm),
      hbytes.symm⟩
  | lost hlost => cases hlost
  | updated hiface hcounter =>
    refine ⟨(hholds.write hcounter maxBytes).congr rfl rfl rfl rfl, ?_, fun _ _ => ?_⟩
    · exact
        { shared := fun _ => counters_setCounter maxBytes
          own := fun iface info hinfo => by
            have hne : iface ≠ sharedCost := hholds.v4.ne_shared hinfo
            exact (counters_setCounter_of_ne hne maxBytes).trans (h.own iface info hinfo)
          sharedAlert := h.sharedAlert
          alert := h.alert }
    · exact ⟨counters_setCounter maxBytes, rfl⟩
  | @shared k hiface hk hcounters =>
    have hcounter : k.counters sharedCost = some maxBytes := by
      rw [hcounters sharedCost (named_of_shared (Finset.insert_ne_empty _ _))]
      by_cases hempty : s.mSharedQuotaIfaces = ∅
      · rw [h.counter_eq_none hholds (.inl hempty) hholds.v4.shared]
        simp [State.shareSection, hempty]
      · rw [h.shared hempty, hjoin hiface hempty]
        rfl
    refine ⟨hk, ?_, fun _ _ => ⟨hcounter, rfl⟩⟩
    exact
      { shared := fun _ => hcounter
        own := fun iface info hinfo =>
          (hcounters iface (named_of_quota hinfo)).trans (or_counter (h.own iface info hinfo) _)
        sharedAlert := h.sharedAlert
        alert := h.alert }

theorem quota_step (hholds : Holds base4 base6 s) (h : QuotasHold s) (hne : iface ≠ sharedCost)
    (maxBytes : Int) :
    QuotaStep base4 base6 (.setInterfaceQuota iface maxBytes)
      (s.setInterfaceQuota .clean iface maxBytes) := by
  have hset := hholds.setInterfaceQuota whole_clean hne maxBytes
  generalize s.setInterfaceQuota .clean iface maxBytes = r at hset
  cases hset with
  | reduced hr hres =>
    exact ⟨hr.holds, h.shrink hr.shrinks, fun hzero hmin => absurd (hres hzero) hmin⟩
  | lost hlost => cases hlost
  | @updated info hinfo hcounter =>
    refine ⟨(hholds.write hcounter maxBytes).setQuota hinfo maxBytes, ?_,
      fun _ _ => ⟨counters_setCounter maxBytes, _, mQuotaIfaces_self _, rfl⟩⟩
    exact
      { shared := fun hshared =>
          (counters_setCounter_of_ne hne.symm maxBytes).trans (h.shared hshared)
        own := by
          refine forall_setQuotaIface (fun info' hself => ?_) fun iface' hne' info' hother => ?_
          · cases hself
            exact counters_setCounter maxBytes
          · exact (counters_setCounter_of_ne hne' maxBytes).trans (h.own iface' info' hother)
        sharedAlert := h.sharedAlert
        alert := by
          refine forall_setQuotaIface (fun info' hself => ?_) fun iface' _ => h.alert iface'
          cases hself
          exact h.alert iface info hinfo }
  | @added k hinfo hk hcounters =>
    have hcounter : k.counters iface = some maxBytes := by
      rw [hcounters iface (named_of_quota (mQuotaIfaces_self _)),
        h.counter_eq_none hholds (.inr hne) hinfo]
      simp
    refine ⟨hk, ?_, fun _ _ => ⟨hcounter, _, mQuotaIfaces_self _, rfl⟩⟩
    exact
      { shared := fun hshared =>
          (hcounters sharedCost (named_of_shared hshared)).trans (or_counter (h.shared hshared) _)
        own := by
          refine forall_setQuotaIface (fun info' hself => ?_) fun iface' hne' info' hother => ?_
          · cases hself
            exact hcounter
          · rw [hcounters iface' (named_of_quota ((mQuotaIfaces_of_ne hne' _).trans hother))]
            exact or_counter (h.own iface' info' hother) _
        sharedAlert := h.sharedAlert
        alert := by
          refine forall_setQuotaIface (fun info' hself => ?_) fun iface' _ => h.alert iface'
          cases hself
          rfl }

/-! ## Runs -/

/-- A call about quotas to which nothing happens. An interface with its own quota is not `shared`,
and one that begins to share it passes the value in force. -/
def QuotaCall (s : State) (e : Event) : Prop :=
  e.env = .clean ∧
    match e.call with
    | .setInterfaceSharedQuota iface maxBytes =>
      maxBytes ≠ 0 → maxBytes ≠ -1 → isIfaceName iface = true →
        iface ∉ s.mSharedQuotaIfaces → s.mSharedQuotaIfaces ≠ ∅ → maxBytes = s.mSharedQuotaBytes
    | .setInterfaceQuota iface _ => iface ≠ sharedCost
    | .removeInterfaceSharedQuota _ | .removeInterfaceQuota _ => True
    | .setSharedAlert _ | .removeSharedAlert | .setInterfaceAlert _ _ | .removeInterfaceAlert _ =>
      False

instance decidableQuotaCall (s : State) : (e : Event) → Decidable (QuotaCall s e)
  | ⟨.setInterfaceSharedQuota _ _, _⟩ | ⟨.setInterfaceQuota _ _, _⟩
  | ⟨.removeInterfaceSharedQuota _, _⟩ | ⟨.removeInterfaceQuota _, _⟩ | ⟨.setSharedAlert _, _⟩
  | ⟨.removeSharedAlert, _⟩ | ⟨.setInterfaceAlert _ _, _⟩ | ⟨.removeInterfaceAlert _, _⟩ => by
    unfold QuotaCall
    infer_instance

theorem quotaStep_run (hholds : Holds base4 base6 s) (h : QuotasHold s) {e : Event}
    (hok : QuotaCall s e) : QuotaStep base4 base6 e.call (e.call.run e.env s) := by
  obtain ⟨call, env⟩ := e
  obtain ⟨rfl, hcall⟩ := hok
  cases call with
  | setInterfaceSharedQuota iface maxBytes => exact sharedQuota_step hholds h maxBytes hcall
  | setInterfaceQuota iface maxBytes => exact quota_step hholds h hcall maxBytes
  | removeInterfaceSharedQuota iface =>
    have hr := hholds.removeInterfaceSharedQuota whole_clean iface
    exact ⟨hr.holds, h.shrink hr.shrinks, trivial⟩
  | removeInterfaceQuota iface =>
    have hr := hholds.removeInterfaceQuota whole_clean iface
    exact ⟨hr.holds, h.shrink hr.shrinks, trivial⟩
  | setSharedAlert bytes | removeSharedAlert | setInterfaceAlert iface bytes
  | removeInterfaceAlert iface => exact hcall.elim

/-- The rules of the quotas in a table are those of the recorded interfaces. -/
structure Exact (s : State) (t : Table Chain Rule) : Prop where
  shared : ⟨.costly sharedCost, .quota sharedCost⟩ ∈ t.rules ↔ s.mSharedQuotaIfaces ≠ ∅
  shares : ∀ iface, ∀ x ∈ jumps iface sharedCost, x ∈ t.rules ↔ iface ∈ s.mSharedQuotaIfaces
  own : ∀ iface name, iface ≠ sharedCost →
    (⟨.costly iface, .quota name⟩ ∈ t.rules ↔ name = iface ∧ s.mQuotaIfaces iface ≠ none)
  jumps : ∀ iface ≠ sharedCost, ∀ x ∈ jumps iface iface, x ∈ t.rules ↔ s.mQuotaIfaces iface ≠ none

theorem Fits.exact {base : Multiset (Entry Chain Rule)} {t : Table Chain Rule}
    (hfits : Fits base s t.view) : Exact s t := by
  have hmem : ∀ {x : Entry Chain Rule} (o : Owner), owner x = o →
      (x ∈ t.rules ↔ x ∈ parts base s o) := by
    intro x o hown
    have hiff := hfits.rules.mem_iff (o := o) (x := x)
    exact ⟨fun hx => hiff.mpr ⟨hx, hown⟩, fun hx => (hiff.mp hx).1⟩
  refine ⟨?_, fun iface x hx => ?_, fun iface name hne => ?_, fun iface hne x hx => ?_⟩
  · rw [hmem .sharedQuota (by simp [owner])]
    by_cases hempty : s.mSharedQuotaIfaces = ∅ <;> simp [parts, sharedPart]
  · rw [hmem (.share iface) ((owner_jumps hx).trans (if_pos rfl))]
    by_cases hiface : iface ∈ s.mSharedQuotaIfaces <;> simp [parts, sharePart, hx]
  · rw [hmem (.quota iface) (owner_costly hne rfl)]
    cases hinfo : s.mQuotaIfaces iface with
    | none => simp [parts, hinfo, quotaPart]
    | some info =>
      by_cases halert : info.alert = 0 <;>
        simp [parts, hinfo, quotaPart, alertPart, Bandwidth.jumps]
  · rw [hmem (.quota iface) ((owner_jumps hx).trans (if_neg hne))]
    cases hinfo : s.mQuotaIfaces iface with
    | none => simp [parts, hinfo, quotaPart]
    | some info => simp [parts, hinfo, quotaPart, hx]

theorem quotas_run {v4 v6 : Table Chain Rule} (h4 : Base v4) (h6 : Base v6) {h : List Event}
    (hrun : Lts.Run step QuotaCall (init v4 v6) h s) :
    Holds v4.view.rules v6.view.rules s ∧ QuotasHold s := by
  refine hrun.invariant (I := fun _ s => Holds v4.view.rules v6.view.rules s ∧ QuotasHold s)
    ⟨holds_init h4 h6, fun hne => absurd rfl hne, fun _ _ h => (by cases h), rfl,
      fun _ _ h => (by cases h)⟩ fun {_ s e s'} hinv hok hs => ?_
  cases hs
  have hstep := quotaStep_run hinv.1 hinv.2 hok
  exact ⟨hstep.holds, hstep.quotas⟩

/-- **Quotas in the kernel equal the configured ones** over every run of such calls. -/
theorem quotas_as_configured {v4 v6 : Table Chain Rule} (h4 : Base v4) (h6 : Base v6)
    {h : List Event} {s : State} (hrun : Lts.Run step QuotaCall (init v4 v6) h s) {e : Event}
    (hok : QuotaCall s e) :
    Honoured e.call (e.call.run e.env s) ∧
      Exact (e.call.run e.env s).1 (e.call.run e.env s).1.kernel.v4 ∧
      Exact (e.call.run e.env s).1 (e.call.run e.env s).1.kernel.v6 := by
  obtain ⟨hholds, hquotas⟩ := quotas_run h4 h6 hrun
  have hstep := quotaStep_run hholds hquotas hok
  exact ⟨hstep.honoured, hstep.holds.v4.exact, hstep.holds.v6.exact⟩

/-- Two interfaces share a quota that is then changed, and a third has its own. -/
def sampleCalls : List Event :=
  [⟨.setInterfaceSharedQuota "rmnet0" 500000, .clean⟩,
    ⟨.setInterfaceSharedQuota "rmnet1" 500000, .clean⟩, ⟨.setInterfaceQuota "wlan0" 1000, .clean⟩,
    ⟨.removeInterfaceSharedQuota "rmnet0", .clean⟩]

theorem quotas_as_configured_sample :
    ∃ h s e, Lts.Run step QuotaCall (init sampleTable sampleTable) h s ∧ QuotaCall s e ∧
      Honoured e.call (e.call.run e.env s) ∧
      Exact (e.call.run e.env s).1 (e.call.run e.env s).1.kernel.v4 ∧
      Exact (e.call.run e.env s).1 (e.call.run e.env s).1.kernel.v6 := by
  obtain ⟨s, hrun, hok⟩ : ∃ s,
      Lts.Run step QuotaCall (init sampleTable sampleTable) sampleCalls.reverse s ∧
        QuotaCall s ⟨.setInterfaceSharedQuota "rmnet1" 700000, .clean⟩ :=
    Lts.run_of_mem _ (by decide +kernel)
  exact ⟨_, s, _, hrun, hok, quotas_as_configured base_sampleTable base_sampleTable hrun hok⟩

/-- Another interface shares the quota with a new value. It is recorded, but the counter stays as it
was. -/
theorem shared_quota_not_updated : let s₀ := init sampleTable sampleTable
    let r₁ := s₀.setInterfaceSharedQuota .clean "rmnet0" 500000
    let r₂ := r₁.1.setInterfaceSharedQuota .clean "rmnet1" 700000
    r₁.2 = 0 ∧ r₂.2 = 0 ∧ r₂.1.mSharedQuotaBytes = 700000 ∧
      r₂.1.kernel.counters sharedCost = some 500000 := by
  decide +kernel

end Netd.Bandwidth
