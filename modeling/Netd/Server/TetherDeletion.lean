import Netd.Server.TetherForwarding

/-!
# TetherController: what disableNat undoes

There is a copy of the rules in the raw table for every active pair of a downstream interface. A
`disableNat` of a pair that is not active takes one of the copies and then fails. After that, for
the last pair `disableNat` fails in the raw table, leaves the pair as it is and returns 0.
-/

namespace Netd.Tether

open RuleChains List State FwdIfaces Netd.Tether.Rule Option Lts

namespace FwdIfaces

variable {fwd : FwdIfaces} {a x : String}

/-- How many active pairs a downstream interface has. -/
def activeOn (fwd : FwdIfaces) (a : String) : Nat := fwd.countP fun e => e.2.active && e.2.iface = a

theorem activeOn_setActive (b : Bool) (c : String) (h : (fwd.findForwardingDownstream a x).isSome) :
    (fwd.setActive a x b).activeOn c +
        (if c = a ∧ fwd.isForwardingPairEnabled a x then 1 else 0) =
      fwd.activeOn c + if c = a ∧ b then 1 else 0 := by
  induction fwd with
  | nil => cases h
  | cons e es ih =>
    obtain ⟨z, d, b'⟩ := e
    by_cases hfor : isFor a x (z, ⟨d, b'⟩)
    · obtain ⟨rfl, rfl⟩ : z = x ∧ d = a := by simpa [isFor] using hfor
      have hhead : isForwardingPairEnabled ((z, ⟨d, b'⟩) :: es) d z = b' := by
        simp [isForwardingPairEnabled, findForwardingDownstream, isFor]
      rw [setActive, if_pos hfor, hhead, activeOn, activeOn, countP_cons, countP_cons]
      by_cases hc : c = d
      · subst hc
        cases b <;> cases b' <;> simp
      · simp [hc, Ne.symm hc]
    · have h' : (findForwardingDownstream es a x).isSome := by
        simpa [findForwardingDownstream, hfor] using h
      have hskip : isForwardingPairEnabled ((z, ⟨d, b'⟩) :: es) a x =
          isForwardingPairEnabled es a x := by
        simp [isForwardingPairEnabled, findForwardingDownstream, hfor]
      have ih := ih h'
      simp only [activeOn] at ih ⊢
      rw [setActive, if_neg hfor, hskip, countP_cons, countP_cons]
      omega

theorem activeOn_addForwardingPair (h : fwd.isForwardingPairEnabled a x = false) (c : String) :
    (fwd.addForwardingPair a x).activeOn c = fwd.activeOn c + if c = a then 1 else 0 := by
  rw [addForwardingPair]
  split
  · next hsome => simpa [h] using activeOn_setActive true c hsome
  · simp [activeOn, eq_comm]

theorem activeOn_markForwardingPairDisabled (h : fwd.isForwardingPairEnabled a x) (c : String) :
    (fwd.markForwardingPairDisabled a x).activeOn c + (if c = a then 1 else 0) =
      fwd.activeOn c := by
  rw [markForwardingPairDisabled]
  simpa [h] using activeOn_setActive false c (isSome_of_isForwardingPairEnabled h)

theorem activeOn_pos (h : fwd.isForwardingPairEnabled a x) : 0 < fwd.activeOn a := by
  have hcount := activeOn_markForwardingPairDisabled h a
  simp only [if_true] at hcount
  omega

end FwdIfaces

/-- There is a copy of the rules in the raw table for every active pair. -/
def Backed (s : State) : Prop :=
  ∀ a r, r ∈ helpers a → s.mFwdIfaces.activeOn a ≤ (s.rules .localRawPrerouting).count r

/-- A `disableNat` names an active pair, or a downstream interface that has none. -/
def Careful (s : State) : Call → Prop
  | .enableNat _ _ => True
  | .disableNat a x => s.Active a x ∨ s.mFwdIfaces.activeOn a = 0

instance decidableActive (s : State) (a x : String) : Decidable (s.Active a x) :=
  inferInstanceAs (Decidable (_ = true))

instance decidableCareful (s : State) : ∀ c, Decidable (Careful s c)
  | .enableNat _ _ => inferInstanceAs (Decidable True)
  | .disableNat _ _ => inferInstanceAs (Decidable (_ ∨ _))

variable {s s' : State} {a x : String}

theorem backed_init (tables : Iptables Chain Rule) (fwd : FwdIfaces) :
    Backed (init tables fwd) := by
  intro a r _
  exact Nat.zero_le _

theorem Backed.setDefaultsIfIdle (h : Backed s) : Backed s.setDefaultsIfIdle := by
  unfold State.setDefaultsIfIdle
  split
  · exact h
  intro a r hr
  exact h a r hr

theorem Backed.enableNat (h : Backed s) (hg : Guarded s) (a x : String) :
    Backed (s.enableNat a x).1 := by
  by_cases hidle : s.Idle a x
  · rw [enableNat_idle hidle]
    exact h
  obtain ⟨body, hbody, hkinds⟩ := hg.body
  have hinactive := inactive_of_not_idle hidle
  obtain ⟨henabled, -⟩ := enableNat_spec hidle hbody (dropAll_not_mem hkinds)
  intro c r hr
  have hc := h c r hr
  rw [henabled.mFwdIfaces, henabled.raw, activeOn_addForwardingPair hinactive,
    count_append, count_helpers hr]
  omega

variable {r : Rule} {c : Call} {fwd : FwdIfaces}

theorem State.Removal.count_raw (hr : State.Removal a x s s') {c : String} (hmem : r ∈ helpers c) :
    (s.rules .localRawPrerouting).count r ≤
      (s'.rules .localRawPrerouting).count r + if c = a then 1 else 0 := by
  have herase : ((helpers a).foldl List.erase (s.rules .localRawPrerouting)).count r =
      (s.rules .localRawPrerouting).count r - if c = a then 1 else 0 := by
    rw [count_foldl_erase _ _ _ (nodup_helpers a)]
    have hiff : r ∈ helpers a ↔ c = a := by
      constructor
      · exact helpers_inj hmem
      · rintro rfl
        exact hmem
    simp only [hiff]
  cases hr with
  | refused _ hrules _ =>
    rw [hrules]
    omega
  | half _ _ hrules _ =>
    simp only [hrules, Function.update_self]
    omega
  | done _ _ hrules _ =>
    have hraw : s'.rules .localRawPrerouting =
        (helpers a).foldl List.erase (s.rules .localRawPrerouting) := by simp [hrules]
    rw [hraw]
    omega

theorem State.Removal.nat (hr : State.Removal a x s s') :
    s'.rules .localNatPostrouting = s.rules .localNatPostrouting := by
  cases hr with
  | refused _ hrules _ => rw [hrules]
  | half _ _ hrules _ | done _ _ hrules _ => simp [hrules]

section

variable (hg : Guarded s)
include hg

theorem Backed.removal_active (h : Backed s) (hactive : s.Active a x)
    (hr : State.Removal a x s s') :
    s'.mFwdIfaces = s.mFwdIfaces.markForwardingPairDisabled a x := by
  have hraw : ∀ r ∈ helpers a, r ∈ s.rules .localRawPrerouting := by
    intro r hr
    have hpos := activeOn_pos hactive
    exact count_pos_iff.mp (lt_of_lt_of_le hpos (h a r hr))
  have hpair : ∀ r ∈ ofPair a x, r ∈ s.rules .localForward := by
    intro r hr
    have henabled : s.mFwdIfaces.isForwardingPairEnabled a x = true := hactive
    have hcount := hg.counts a x r hr
    rw [if_pos henabled] at hcount
    exact count_pos_iff.mp (by omega)
  cases hr with
  | refused habsent =>
    obtain ⟨r, hr, habsent⟩ := habsent
    exact absurd (hraw r hr) habsent
  | half _ habsent =>
    obtain ⟨r, hr, habsent⟩ := habsent
    exact absurd (hpair r hr) habsent
  | done _ _ _ hpairs => exact hpairs

theorem Guarded.removal_inactive (hinactive : ¬s.Active a x)
    (hr : State.Removal a x s s') : s'.mFwdIfaces = s.mFwdIfaces := by
  cases hr with
  | refused _ _ hpairs | half _ _ _ hpairs => exact hpairs
  | done _ hpair _ _ =>
    have hmem := hpair (.outgoing a x) (by simp [ofPair])
    exact absurd (hg.active_of_mem hmem (by simp [ofPair])) hinactive

theorem Backed.removal (h : Backed s)
    (hcare : Careful s (.disableNat a x)) (hr : State.Removal a x s s') : Backed s' := by
  intro c r hmem
  have hbacked := h c r hmem
  have hcount := hr.count_raw hmem
  by_cases hactive : s.Active a x
  · have hmark := activeOn_markForwardingPairDisabled hactive c
    rw [h.removal_active hg hactive hr]
    omega
  rw [hg.removal_inactive hactive hr]
  by_cases hc : c = a
  · -- the copy that is lost was for no pair
    subst hc
    rw [hcare.resolve_left hactive]
    exact Nat.zero_le _
  · rw [if_neg hc] at hcount
    omega

theorem Backed.disableNat (h : Backed s)
    (hcare : Careful s (.disableNat a x)) : Backed (s.disableNat a x).1 := by
  cases hnames : isIfaceName a && isIfaceName x with
  | false =>
    rw [disableNat_invalid hnames]
    exact h
  | true =>
    rw [disableNat_valid hnames]
    exact (h.removal hg hcare (removeForwardRules_spec a x s)).setDefaultsIfIdle

theorem Backed.step (h : Backed s) (hcare : Careful s c) (hs : step c s = some s') : Backed s' := by
  cases hs
  cases c with
  | enableNat a x => exact h.enableNat hg a x
  | disableNat a x => exact h.disableNat hg hcare

end

theorem guarded_and_backed {tables : Iptables Chain Rule} {calls : List Call}
    (hrun : Lts.Run step Careful (init tables fwd) calls s) : Guarded s ∧ Backed s :=
  hrun.invariant (I := fun _ s => Guarded s ∧ Backed s)
    ⟨guarded_init tables fwd, backed_init tables fwd⟩
    fun h hcare hs => ⟨h.1.step hs, h.2.step h.1 hcare hs⟩

/-! ## disableNat stops forwarding -/

/-- The rule is for packets between two interfaces. -/
def Rule.isBetween (a x : String) (r : Rule) : Bool :=
  (r.inIface = some a ∧ r.outIface = some x) ∨ (r.inIface = some x ∧ r.outIface = some a)

theorem Rule.isBetween_of_mem_ofPair {b y : String} (hr : r ∈ ofPair b y) (h : r.isBetween a x) :
    (b = a ∧ y = x) ∨ (b = x ∧ y = a) := by
  simp only [ofPair, mem_cons, not_mem_nil, or_false] at hr
  rcases hr with rfl | rfl | rfl
  · simp only [isBetween, established, some.injEq, decide_eq_true_eq] at h
    exact h.symm.imp And.symm And.symm
  · simpa only [isBetween, invalid, some.injEq, decide_eq_true_eq] using h
  · simpa only [isBetween, outgoing, some.injEq, decide_eq_true_eq] using h

theorem Guarded.not_isBetween (hg : Guarded s) (h : ¬s.Active a x) (h' : ¬s.Active x a)
    (hmem : r ∈ s.rules .localForward) : ¬r.isBetween a x := by
  intro hbetween
  obtain ⟨body, hbody, hkinds⟩ := hg.body
  have hcases : r ∈ body ∨ r = .dropAll := by simpa [hbody] using hmem
  rcases hcases with hr | rfl
  · rcases hkinds r hr with rfl | ⟨b, y, hpair⟩
    · cases hbetween
    have hactive := hg.active_of_mem hmem hpair
    rcases isBetween_of_mem_ofPair hpair hbetween with ⟨rfl, rfl⟩ | ⟨rfl, rfl⟩
    · exact h hactive
    · exact h' hactive
  · cases hbetween

theorem setDefaultsIfIdle_mFwdIfaces (s : State) :
    s.setDefaultsIfIdle.mFwdIfaces = s.mFwdIfaces := by
  unfold State.setDefaultsIfIdle
  split
  · rfl
  · exact setDefaults_mFwdIfaces s

/-- After careful calls a `disableNat` that returns 0 leaves no rule between the interfaces and no
active pair, unless the pair is active the other way round. -/
theorem disableNat_stops_forwarding (tables : Iptables Chain Rule) (fwd : FwdIfaces)
    {calls : List Call} {s : State} (a x : String)
    (hrun : Lts.Run step Careful (init tables fwd) calls s)
    (hreverse : ¬s.Active x a) (hret : (s.disableNat a x).2 = 0) :
    (∀ r ∈ (s.disableNat a x).1.rules .localForward, ¬r.isBetween a x) ∧
      ¬(s.disableNat a x).1.Active a x := by
  obtain ⟨hg, hb⟩ := guarded_and_backed hrun
  have hg' := hg.disableNat a x
  cases hnames : isIfaceName a && isIfaceName x with
  | false => simp [disableNat_invalid hnames, Errno.enodev] at hret
  | true =>
    rw [disableNat_valid hnames] at hg' ⊢
    have hr := removeForwardRules_spec a x s
    have hafter : ¬(s.removeForwardRules a x).1.setDefaultsIfIdle.Active a x ∧
        ¬(s.removeForwardRules a x).1.setDefaultsIfIdle.Active x a := by
      simp only [State.Active, setDefaultsIfIdle_mFwdIfaces] at hreverse ⊢
      by_cases hactive : s.Active a x
      · rw [hb.removal_active hg hactive hr,
          isForwardingPairEnabled_markForwardingPairDisabled hactive,
          isForwardingPairEnabled_markForwardingPairDisabled hactive]
        simp [hreverse]
      · rw [hg.removal_inactive hactive hr]
        exact ⟨hactive, hreverse⟩
    exact ⟨fun r => hg'.not_isBetween hafter.1 hafter.2, hafter.1⟩

theorem disableNat_stops_forwarding_sample : ∃ s, Lts.Run step Careful (init emptyTables [])
        [.enableNat "usb0" "rmnet0", .enableNat "wlan0" "rmnet0"] s ∧
      s.Active "wlan0" "rmnet0" ∧
      (∀ r ∈ (s.disableNat "wlan0" "rmnet0").1.rules .localForward, ¬r.isBetween "wlan0" "rmnet0") ∧
      ¬(s.disableNat "wlan0" "rmnet0").1.Active "wlan0" "rmnet0" := by
  obtain ⟨s, hrun, hactive, hreverse, hret⟩ : ∃ s, Lts.Run step Careful (init emptyTables [])
        [.enableNat "usb0" "rmnet0", .enableNat "wlan0" "rmnet0"] s ∧ s.Active "wlan0" "rmnet0" ∧
      ¬s.Active "rmnet0" "wlan0" ∧ (s.disableNat "wlan0" "rmnet0").2 = 0 :=
    run_of_mem [Call.enableNat "wlan0" "rmnet0", .enableNat "usb0" "rmnet0"] (by decide +kernel)
  exact ⟨s, hrun, hactive, disableNat_stops_forwarding emptyTables [] _ _ hrun hreverse hret⟩

/-- A `disableNat` of a pair that was never enabled, for another upstream, takes the raw rules. The
one for the pair then returns 0 and leaves it active, with its rules. -/
theorem stale_disable_keeps_forwarding : ∃ s, Lts.Run step (fun _ _ => True) (init emptyTables [])
        [.disableNat "wlan0" "eth0", .enableNat "wlan0" "rmnet0"] s ∧
      (s.disableNat "wlan0" "rmnet0").2 = 0 ∧
      outgoing "wlan0" "rmnet0" ∈ (s.disableNat "wlan0" "rmnet0").1.rules .localForward ∧
      (s.disableNat "wlan0" "rmnet0").1.Active "wlan0" "rmnet0" :=
  run_of_mem [Call.enableNat "wlan0" "rmnet0", .disableNat "wlan0" "eth0"] (by decide +kernel)

/-! ## Masquerading -/

/-- Every upstream interface with an active pair has one rule, and no other has one. -/
structure Masqueraded (s : State) : Prop where
  kinds : ∀ r ∈ s.rules .localNatPostrouting, ∃ x, r = .masquerade x
  counts : ∀ x, (s.rules .localNatPostrouting).count (.masquerade x) =
    if s.mFwdIfaces.isAnyForwardingEnabledOnUpstream x then 1 else 0

/-- The call returns 0, and a `disableNat` names an active pair that is not the last one of its
upstream interface while pairs of others are active. -/
def Orderly (s : State) (c : Call) : Prop :=
  (c.run s).2 = 0 ∧
    match c with
    | .enableNat _ _ => True
    | .disableNat a x =>
      s.Active a x ∧
        ((s.mFwdIfaces.markForwardingPairDisabled a x).isAnyForwardingEnabledOnUpstream x ∨
          (s.mFwdIfaces.markForwardingPairDisabled a x).isAnyForwardingPairEnabled = false)

instance decidableOrderly (s : State) : ∀ c, Decidable (Orderly s c)
  | .enableNat _ _ => inferInstanceAs (Decidable (_ ∧ True))
  | .disableNat _ _ => inferInstanceAs (Decidable (_ ∧ _ ∧ (_ ∨ _)))

theorem Orderly.careful (h : Orderly s c) : Careful s c := by
  cases c with
  | enableNat => trivial
  | disableNat => exact .inl h.2.1

/-- Adding a pair changes nothing for the other upstream interfaces. -/
theorem isAnyForwardingEnabledOnUpstream_addForwardingPair (hk : fwd.Keyed) (a x y : String) :
    (fwd.addForwardingPair a x).isAnyForwardingEnabledOnUpstream y =
      if y = x then true else fwd.isAnyForwardingEnabledOnUpstream y := by
  rw [Bool.eq_iff_iff, isAnyForwardingEnabledOnUpstream_iff (keyed_addForwardingPair hk a x)]
  simp only [isForwardingPairEnabled_addForwardingPair]
  by_cases hy : y = x
  · subst hy
    simp only [if_true, iff_true]
    exact ⟨a, by simp⟩
  · simp only [hy, and_false]
    exact (isAnyForwardingEnabledOnUpstream_iff hk).symm

theorem isAnyForwardingEnabledOnUpstream_markForwardingPairDisabled (hk : fwd.Keyed)
    (h : fwd.isForwardingPairEnabled a x) {y : String} (hy : y ≠ x) :
    (fwd.markForwardingPairDisabled a x).isAnyForwardingEnabledOnUpstream y =
      fwd.isAnyForwardingEnabledOnUpstream y := by
  rw [Bool.eq_iff_iff, isAnyForwardingEnabledOnUpstream_iff
      (keyed_markForwardingPairDisabled hk a x),
    isAnyForwardingEnabledOnUpstream_iff hk]
  simp only [isForwardingPairEnabled_markForwardingPairDisabled h, hy, and_false, if_false]

theorem masqueraded_init (tables : Iptables Chain Rule) (fwd : FwdIfaces) :
    Masqueraded (init tables fwd) := by
  have hnat := (init_rules tables fwd).2
  refine ⟨by simp [hnat], ?_⟩
  intro x
  rfl

theorem Masqueraded.enableNat (h : Masqueraded s) (hg : Guarded s) (a x : String) :
    Masqueraded (s.enableNat a x).1 := by
  by_cases hidle : s.Idle a x
  · rw [enableNat_idle hidle]
    exact h
  obtain ⟨body, hbody, hkinds⟩ := hg.body
  obtain ⟨henabled, -⟩ := enableNat_spec hidle hbody (dropAll_not_mem hkinds)
  refine ⟨?_, ?_⟩
  · intro r hr
    rw [henabled.nat] at hr
    rcases mem_append.mp hr with hr | hr
    · exact h.kinds r hr
    split at hr
    · cases hr
    · exact ⟨x, mem_singleton.mp hr⟩
  · intro y
    rw [henabled.nat, henabled.mFwdIfaces, count_append, h.counts y,
      isAnyForwardingEnabledOnUpstream_addForwardingPair hg.keyed]
    by_cases hy : y = x
    · subst hy
      by_cases hup : s.mFwdIfaces.isAnyForwardingEnabledOnUpstream y <;> simp [hup]
    have hne : masquerade x ≠ .masquerade y := by
      simpa [masquerade] using Ne.symm hy
    by_cases hup : s.mFwdIfaces.isAnyForwardingEnabledOnUpstream x <;> simp [hup, hy, hne]

theorem Masqueraded.disableNat (h : Masqueraded s) (hg : Guarded s) (hb : Backed s)
    (horderly : Orderly s (.disableNat a x)) : Masqueraded (s.disableNat a x).1 := by
  obtain ⟨hret, hactive, hlast⟩ := horderly
  have hnames : (isIfaceName a && isIfaceName x) = true := by
    by_contra hinvalid
    have heq := disableNat_invalid (s := s) (by simpa using hinvalid)
    simp [Call.run, heq, Errno.enodev] at hret
  have hr := removeForwardRules_spec a x s
  have hpairs := hb.removal_active hg hactive hr
  rw [disableNat_valid hnames]
  unfold State.setDefaultsIfIdle
  split
  · rename_i hany
    -- the upstream interface keeps a pair
    rw [hpairs] at hany
    have hkeeps := hlast.resolve_right (by simp [hany])
    refine ⟨by rw [hr.nat]; exact h.kinds, ?_⟩
    intro y
    rw [hr.nat, h.counts y, hpairs]
    by_cases hy : y = x
    · subst hy
      have hbefore : s.mFwdIfaces.isAnyForwardingEnabledOnUpstream y = true :=
        (isAnyForwardingEnabledOnUpstream_iff hg.keyed).mpr ⟨a, hactive⟩
      rw [hbefore, hkeeps]
    · rw [isAnyForwardingEnabledOnUpstream_markForwardingPairDisabled hg.keyed hactive hy]
  · rename_i hnone
    have hnat : (s.removeForwardRules a x).1.setDefaults.1.rules .localNatPostrouting = [] := by
      simp [setDefaults_rules]
    refine ⟨by simp [hnat], ?_⟩
    intro y
    have hk := (hg.removal hr).keyed
    have hup : ¬(s.removeForwardRules a x).1.mFwdIfaces.isAnyForwardingEnabledOnUpstream y := by
      intro hup
      obtain ⟨b, henabled⟩ := (isAnyForwardingEnabledOnUpstream_iff hk).mp hup
      exact hnone ((isAnyForwardingPairEnabled_iff hk).mpr ⟨b, y, henabled⟩)
    rw [hnat, setDefaults_mFwdIfaces, if_neg hup]
    rfl

theorem Masqueraded.step (h : Masqueraded s) (hg : Guarded s) (hb : Backed s)
    (horderly : Orderly s c) (hs : Tether.step c s = some s') : Masqueraded s' := by
  cases hs
  cases c with
  | enableNat a x => exact h.enableNat hg a x
  | disableNat a x => exact h.disableNat hg hb horderly

/-- In orderly runs each upstream interface with an active pair has one `MASQUERADE` rule, and there
is no other. -/
theorem masquerade_follows_upstreams (tables : Iptables Chain Rule) (fwd : FwdIfaces)
    {calls : List Call} {s : State} (hrun : Lts.Run step Orderly (init tables fwd) calls s) :
    (∀ r ∈ s.rules .localNatPostrouting, ∃ x, r = .masquerade x) ∧
      (∀ x, (∃ a, s.Active a x) → (s.rules .localNatPostrouting).count (.masquerade x) = 1) ∧
      ∀ x, (∀ a, ¬s.Active a x) → .masquerade x ∉ s.rules .localNatPostrouting := by
  obtain ⟨hg, -, hm⟩ := hrun.invariant (I := fun _ s => Guarded s ∧ Backed s ∧ Masqueraded s)
    ⟨guarded_init tables fwd, backed_init tables fwd, masqueraded_init tables fwd⟩
    fun h horderly hs => ⟨h.1.step hs, h.2.1.step h.1 horderly.careful hs,
      h.2.2.step h.1 h.2.1 horderly hs⟩
  have hup : ∀ x, s.mFwdIfaces.isAnyForwardingEnabledOnUpstream x ↔ ∃ a, s.Active a x :=
    fun x => isAnyForwardingEnabledOnUpstream_iff hg.keyed
  refine ⟨hm.kinds, ?_, ?_⟩
  · intro x hx
    rw [hm.counts x, if_pos ((hup x).mpr hx)]
  · intro x hx
    have hnot : ¬s.mFwdIfaces.isAnyForwardingEnabledOnUpstream x := by
      rw [hup x]
      rintro ⟨a, ha⟩
      exact hx a ha
    have hcount := hm.counts x
    rw [if_neg hnot] at hcount
    exact count_eq_zero.mp hcount

theorem masquerade_follows_upstreams_sample :
    ∃ s, Lts.Run step Orderly (init emptyTables []) sampleCalls.reverse s ∧
      s.rules .localNatPostrouting = [.masquerade "rmnet0"] ∧
      (∀ r ∈ s.rules .localNatPostrouting, ∃ x, r = .masquerade x) ∧
      (∀ x, (∃ a, s.Active a x) → (s.rules .localNatPostrouting).count (.masquerade x) = 1) ∧
      ∀ x, (∀ a, ¬s.Active a x) → .masquerade x ∉ s.rules .localNatPostrouting :=
  run_of_mem_and sampleCalls (by decide +kernel) (masquerade_follows_upstreams emptyTables [])

/-- The call returns 0, and a `disableNat` names an active pair. -/
def Successful (s : State) (c : Call) : Prop :=
  (c.run s).2 = 0 ∧
    match c with
    | .enableNat _ _ => True
    | .disableNat a x => s.Active a x

instance decidableSuccessful (s : State) : ∀ c, Decidable (Successful s c)
  | .enableNat _ _ => inferInstanceAs (Decidable (_ ∧ True))
  | .disableNat _ _ => inferInstanceAs (Decidable (_ ∧ _))

/-- The rule stays when an upstream interface loses its last pair while another has one. -/
theorem masquerade_outlives_pairs : ∃ s, Lts.Run step Successful (init emptyTables [])
        [.disableNat "wlan0" "rmnet0", .enableNat "usb0" "eth0", .enableNat "wlan0" "rmnet0"] s ∧
      s.mFwdIfaces.isAnyForwardingEnabledOnUpstream "rmnet0" = false ∧
      .masquerade "rmnet0" ∈ s.rules .localNatPostrouting :=
  run_of_mem
    [Call.enableNat "wlan0" "rmnet0", .enableNat "usb0" "eth0", .disableNat "wlan0" "rmnet0"]
    (by decide +kernel)

end Netd.Tether
