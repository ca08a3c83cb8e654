import Netd.Server.TetherController

/-!
# TetherController: what the calls do to the rules
-/

namespace Netd.Tether

open RuleChains List Netd.Tether.Rule Iptables State Function FwdIfaces Option

namespace State

variable {s s' : State} {a x : String}

/-! ## Commands -/

@[simp] theorem iptablesRestore_mFwdIfaces (target : IptablesTarget) (cmd : Command) (s : State) :
    (s.iptablesRestore target cmd).1.mFwdIfaces = s.mFwdIfaces := rfl

theorem iptablesRestore_v4_result (cmd : Command) (s : State) :
    (s.iptablesRestore .v4 cmd).2 = result (restore cmd s.rules).2 := rfl

theorem iptablesRestore_ok (target : IptablesTarget) {cmd : Command}
    (h : ∀ es ∈ cmd, ∀ c r, (c, .delete r) ∉ es) (s : State) :
    (s.iptablesRestore target cmd).2 = 0 := by
  cases target <;>
    simp [iptablesRestore, execIptablesRestore, result, restore_ok h]

theorem setDefaults_rules (s : State) : s.setDefaults.1.rules =
      update (update s.rules .localForward [.dropAll])
        .localNatPostrouting [] := by
  simp [setDefaults, iptablesRestore, execIptablesRestore, result, restore, rules]

theorem setDefaults_mFwdIfaces (s : State) : s.setDefaults.1.mFwdIfaces = s.mFwdIfaces := by
  simp [setDefaults, iptablesRestore, execIptablesRestore, result, restore]

/-- A new upstream interface gets a rule in one chain, and the first pair of all one at the head of
another. -/
theorem prepareUpstream_spec (x : String) (s : State) :
    (s.prepareUpstream x).2 = 0 ∧ (s.prepareUpstream x).1.mFwdIfaces = s.mFwdIfaces ∧
      (∃ alert, (alert = [] ∨ alert = [.globalAlert]) ∧
        (s.prepareUpstream x).1.rules .localForward = alert ++ s.rules .localForward) ∧
      (s.prepareUpstream x).1.rules .localRawPrerouting = s.rules .localRawPrerouting ∧
      (s.prepareUpstream x).1.rules .localNatPostrouting = s.rules .localNatPostrouting ++
        if s.mFwdIfaces.isAnyForwardingEnabledOnUpstream x then [] else [.masquerade x] := by
  by_cases hx : s.mFwdIfaces.isAnyForwardingEnabledOnUpstream x
  · simp [prepareUpstream, hx]
  by_cases h : s.mFwdIfaces.isAnyForwardingPairEnabled
  · simp [prepareUpstream, setupIPv6CountersChain, setTetherGlobalAlertRule, iptablesRestore,
      execIptablesRestore, result, restore, rules, hx, h]
  · simp [prepareUpstream, setupIPv6CountersChain, setTetherGlobalAlertRule, iptablesRestore,
      execIptablesRestore, result, restore, rules, hx, h]

variable {body : List Rule} {t : Chains Chain Rule}

/-- The rule that drops what is left is moved behind the rules of a new pair. -/
theorem restore_forwardCommand_add (ht : t .localForward = body ++ [.dropAll])
    (hb : .dropAll ∉ body) (a x : String) (fwd : FwdIfaces) :
    ∃ t', restore (forwardCommand true a x fwd) t = (t', true) ∧
      t' .localForward = body ++ ofPair a x ++ [.dropAll] ∧
      t' .localRawPrerouting = t .localRawPrerouting ++ helpers a ∧
      t' .localNatPostrouting = t .localNatPostrouting := by
  by_cases h : fwd.tetherCountingRuleExists a x
  · simp [forwardCommand, restore, helpers, ofPair, commit, ChainEdit.apply, ht, h,
      erase_append_right _ hb]
  · simp [forwardCommand, restore, helpers, ofPair, commit, ChainEdit.apply, ht, h,
      erase_append_right _ hb]

theorem setRpfilter_rules (op : Rule → ChainEdit Rule) (a : String) (s : State) :
    (s.setRpfilter op a).rules = s.rules := rfl

theorem setRpfilter_mFwdIfaces (op : Rule → ChainEdit Rule) (a : String) (s : State) :
    (s.setRpfilter op a).mFwdIfaces = s.mFwdIfaces := rfl

/-- The rules of a pair are added before the last rule of the chain, and the pair is recorded. -/
theorem addForwardRules_spec (hs : s.rules .localForward = body ++ [.dropAll])
    (hb : .dropAll ∉ body) (a x : String) :
    (s.addForwardRules a x).2 = 0 ∧
      (s.addForwardRules a x).1.mFwdIfaces = s.mFwdIfaces.addForwardingPair a x ∧
      (s.addForwardRules a x).1.rules .localForward = body ++ ofPair a x ++ [.dropAll] ∧
      (s.addForwardRules a x).1.rules .localRawPrerouting =
        s.rules .localRawPrerouting ++ helpers a ∧
      (s.addForwardRules a x).1.rules .localNatPostrouting = s.rules .localNatPostrouting := by
  obtain ⟨t, ht, hspec⟩ := restore_forwardCommand_add hs hb a x s.mFwdIfaces
  have hv6 : ∀ es ∈ forwardCommandV6 a x s.mFwdIfaces, ∀ c r, (c, .delete r) ∉ es := by
    simp only [forwardCommandV6]
    split <;> simp
  simp only [addForwardRules, setRpfilter_mFwdIfaces, iptablesRestore_mFwdIfaces,
    iptablesRestore_v4_result, setRpfilter_rules, ht, result,
    iptablesRestore_ok .v6 hv6]
  have hrules : ∀ fwd, (State.mk (((s.setRpfilter .append a).iptablesRestore .v4
      (forwardCommand true a x s.mFwdIfaces)).1.iptablesRestore .v6
      (forwardCommandV6 a x s.mFwdIfaces)).1.tables fwd).rules = t := by
    intro fwd
    exact congrArg Prod.fst ht
  refine ⟨rfl, rfl, ?_⟩
  exact (hrules _).symm ▸ hspec

/-- What `removeForwardRules` can make of a state. -/
inductive Removal (a x : String) (s s' : State) : Prop where
  | refused (habsent : ∃ r ∈ helpers a, r ∉ s.rules .localRawPrerouting)
      (hrules : s'.rules = s.rules) (hpairs : s'.mFwdIfaces = s.mFwdIfaces)
  | half (hraw : ∀ r ∈ helpers a, r ∈ s.rules .localRawPrerouting)
      (habsent : ∃ r ∈ ofPair a x, r ∉ s.rules .localForward)
      (hrules : s'.rules = update s.rules .localRawPrerouting
        ((helpers a).foldl List.erase (s.rules .localRawPrerouting)))
      (hpairs : s'.mFwdIfaces = s.mFwdIfaces)
  | done (hraw : ∀ r ∈ helpers a, r ∈ s.rules .localRawPrerouting)
      (hpair : ∀ r ∈ ofPair a x, r ∈ s.rules .localForward)
      (hrules : s'.rules = update (update s.rules .localRawPrerouting
          ((helpers a).foldl List.erase (s.rules .localRawPrerouting)))
        .localForward ((ofPair a x).foldl List.erase (s.rules .localForward)))
      (hpairs : s'.mFwdIfaces = s.mFwdIfaces.markForwardingPairDisabled a x)

theorem nodup_helpers (a : String) : (helpers a).Nodup := by
  simp [helpers, helper]

theorem nodup_ofPair (a x : String) : (ofPair a x).Nodup := by
  simp [ofPair, established, invalid, outgoing]

theorem forwardCommand_remove (a x : String) (fwd : FwdIfaces) : forwardCommand false a x fwd =
      [(helpers a).map fun r => (.localRawPrerouting, .delete r),
        (ofPair a x).map fun r => (.localForward, .delete r)] := by
  simp [forwardCommand]

theorem removeForwardRules_eq {ok : Bool}
    (h : restore (forwardCommand false a x s.mFwdIfaces) s.rules = (t, ok)) :
    (s.removeForwardRules a x).1.rules = t ∧
      (s.removeForwardRules a x).1.mFwdIfaces =
        if ok then s.mFwdIfaces.markForwardingPairDisabled a x else s.mFwdIfaces := by
  have hrules : ((s.setRpfilter .delete a).iptablesRestore .v4
      (forwardCommand false a x s.mFwdIfaces)).1.rules = t := congrArg Prod.fst h
  cases ok with
  | true | false =>
    simp only [removeForwardRules, setRpfilter_mFwdIfaces, iptablesRestore_v4_result,
      setRpfilter_rules, h, result]
    exact ⟨hrules, rfl⟩

theorem removeForwardRules_spec (a x : String) (s : State) :
    Removal a x s (s.removeForwardRules a x).1 := by
  by_cases hraw : ∀ r ∈ helpers a, r ∈ s.rules .localRawPrerouting
  · have hfirst := commit_deletes _ (nodup_helpers a) hraw
    set t := update s.rules .localRawPrerouting
      ((helpers a).foldl List.erase (s.rules .localRawPrerouting)) with ht
    have hkeep : t .localForward = s.rules .localForward := by simp [ht]
    by_cases hpair : ∀ r ∈ ofPair a x, r ∈ s.rules .localForward
    · have hsecond := commit_deletes _ (nodup_ofPair a x) (hkeep ▸ hpair)
      have h : restore (forwardCommand false a x s.mFwdIfaces) s.rules =
          (update t .localForward
            ((ofPair a x).foldl List.erase (t .localForward)), true) := by
        rw [forwardCommand_remove, restore, hfirst]
        simp only [restore, hsecond]
      obtain ⟨hrules, hpairs⟩ := removeForwardRules_eq h
      exact .done hraw hpair (hkeep ▸ hrules) hpairs
    · push Not at hpair
      obtain ⟨r, hr, habsent⟩ := hpair
      have hsecond := commit_deletes_absent _ hr (hkeep ▸ habsent)
      have h : restore (forwardCommand false a x s.mFwdIfaces) s.rules = (t, false) := by
        rw [forwardCommand_remove, restore, hfirst]
        simp only [restore, hsecond]
      obtain ⟨hrules, hpairs⟩ := removeForwardRules_eq h
      exact .half hraw ⟨r, hr, habsent⟩ hrules hpairs
  · push Not at hraw
    obtain ⟨r, hr, habsent⟩ := hraw
    have h : restore (forwardCommand false a x s.mFwdIfaces) s.rules = (s.rules, false) := by
      rw [forwardCommand_remove, restore, commit_deletes_absent _ hr habsent]
    obtain ⟨hrules, hpairs⟩ := removeForwardRules_eq h
    exact .refused ⟨r, hr, habsent⟩ hrules hpairs

/-! ## Calls -/

/-- `enableNat` leaves the state if it has nothing to do. -/
def Idle (a x : String) (s : State) : Prop :=
  isIfaceName a = false ∨ isIfaceName x = false ∨ a = x ∨ s.Active a x

/-- What `enableNat` makes of a state for a pair that is not active. -/
structure Enabled (a x : String) (body : List Rule) (s s' : State) : Prop where
  mFwdIfaces : s'.mFwdIfaces = s.mFwdIfaces.addForwardingPair a x
  forward : ∃ alert, (alert = [] ∨ alert = [.globalAlert]) ∧
    s'.rules .localForward = alert ++ body ++ ofPair a x ++ [.dropAll]
  raw : s'.rules .localRawPrerouting = s.rules .localRawPrerouting ++ helpers a
  nat : s'.rules .localNatPostrouting = s.rules .localNatPostrouting ++
    if s.mFwdIfaces.isAnyForwardingEnabledOnUpstream x then [] else [.masquerade x]

theorem inactive_of_not_idle (h : ¬ s.Idle a x) :
    s.mFwdIfaces.isForwardingPairEnabled a x = false := by
  simp only [Idle, not_or, Active] at h
  simpa using h.2.2.2

theorem enableNat_idle (h : s.Idle a x) : (s.enableNat a x).1 = s := by
  unfold enableNat
  rcases h with ha | hx | hax | hactive
  · simp [ha]
  · simp [hx]
  · subst hax
    split
    · rfl
    · simp
  · have henabled : s.mFwdIfaces.isForwardingPairEnabled a x = true := hactive
    split
    · rfl
    · split <;> rfl

theorem enableNat_spec (hidle : ¬s.Idle a x) (hs : s.rules .localForward = body ++ [.dropAll])
    (hb : .dropAll ∉ body) : Enabled a x body s (s.enableNat a x).1 ∧ (s.enableNat a x).2 = 0 := by
  simp only [Idle, not_or, Active] at hidle
  obtain ⟨ha, hx, hne, hinactive⟩ := hidle
  obtain ⟨hres, hpairs, ⟨alert, halert, hforward⟩, hraw, hnat⟩ := prepareUpstream_spec x s
  have hforward' : (s.prepareUpstream x).1.rules .localForward = (alert ++ body) ++ [.dropAll] := by
    rw [hforward, hs, append_assoc]
  have hb' : dropAll ∉ alert ++ body := by
    rcases halert with rfl | rfl <;> simpa [globalAlert, dropAll] using hb
  obtain ⟨hres', hpairs', hforward'', hraw', hnat'⟩ := addForwardRules_spec hforward' hb' a x
  have heq : s.enableNat a x = ((s.prepareUpstream x).1.addForwardRules a x) := by
    simp [enableNat, ha, hx, hne, hinactive, hres, hres', Prod.ext_iff]
  rw [heq]
  refine ⟨⟨?_, ⟨alert, halert, hforward''⟩, ?_, ?_⟩, hres'⟩
  · rw [hpairs', hpairs]
  · rw [hraw', hraw]
  · rw [hnat', hnat]

theorem disableNat_invalid (h : (isIfaceName a && isIfaceName x) = false) :
    s.disableNat a x = (s, -Errno.enodev) := by
  have hnot : (!isIfaceName a || !isIfaceName x) = true := by
    rw [← Bool.not_and, h]
    rfl
  rw [disableNat, if_pos hnot]

theorem disableNat_valid (h : (isIfaceName a && isIfaceName x) = true) :
    s.disableNat a x = ((s.removeForwardRules a x).1.setDefaultsIfIdle, 0) := by
  have hnot : ¬(!isIfaceName a || !isIfaceName x) = true := by
    rw [← Bool.not_and, h]
    decide
  rw [disableNat, if_neg hnot]

end State

/-! ## Rules and pairs -/

namespace Rule

variable {a b x y : String} {r : Rule}

theorem ofPair_inj (h : r ∈ ofPair a x) (h' : r ∈ ofPair b y) : a = b ∧ x = y := by
  simp only [ofPair, mem_cons, not_mem_nil, or_false] at h h'
  rcases h with rfl | rfl | rfl <;> rcases h' with h' | h' | h' <;>
    simp only [established, invalid, outgoing, mk.injEq, some.injEq, reduceCtorEq,
      and_false, false_and, List.cons.injEq] at h'
  · exact ⟨h'.2.1, h'.1⟩
  · exact ⟨h'.1, h'.2.1⟩
  · exact ⟨h'.1, h'.2.1⟩

theorem dropAll_not_mem_ofPair (a x : String) : dropAll ∉ ofPair a x := by
  simp [ofPair, dropAll, established, invalid, outgoing]

theorem helpers_inj (h : r ∈ helpers a) (h' : r ∈ helpers b) : a = b := by
  simp only [helpers, mem_cons, not_mem_nil, or_false] at h h'
  rcases h with rfl | rfl <;> simpa [helper] using h'

theorem count_ofPair (h : r ∈ ofPair b y) :
    (ofPair a x).count r = if b = a ∧ y = x then 1 else 0 := by
  by_cases heq : b = a ∧ y = x
  · obtain ⟨rfl, rfl⟩ := heq
    simp [count_eq_one_of_mem (nodup_ofPair b y) h]
  rw [if_neg heq]
  refine count_eq_zero.mpr ?_
  intro hmem
  exact heq (ofPair_inj h hmem)

theorem count_helpers (h : r ∈ helpers b) : (helpers a).count r = if b = a then 1 else 0 := by
  by_cases heq : b = a
  · subst heq
    simp [count_eq_one_of_mem (nodup_helpers b) h]
  rw [if_neg heq]
  refine count_eq_zero.mpr ?_
  intro hmem
  exact heq (helpers_inj h hmem)

end Rule

/-! ## Packets pass between the interfaces of active pairs -/

/-- The invariant of `LOCAL_FORWARD`: the rules of the active pairs, once each, and a last rule that
drops the rest. -/
structure Guarded (s : State) : Prop where
  keyed : s.mFwdIfaces.Keyed
  body : ∃ body, s.rules .localForward = body ++ [.dropAll] ∧
    ∀ r ∈ body, r = .globalAlert ∨ ∃ a x, r ∈ ofPair a x
  counts : ∀ a x r, r ∈ ofPair a x → (s.rules .localForward).count r =
    if s.mFwdIfaces.isForwardingPairEnabled a x then 1 else 0

variable {body : List Rule} {r : Rule}

theorem dropAll_not_mem (h : ∀ r ∈ body, r = .globalAlert ∨ ∃ a x, r ∈ ofPair a x) :
    dropAll ∉ body := by
  intro hmem
  rcases h _ hmem with halert | ⟨a, x, hpair⟩
  · cases halert
  · exact dropAll_not_mem_ofPair a x hpair

variable {s s' : State} {a x : String}

theorem Guarded.congr (h : Guarded s) (hpairs : s'.mFwdIfaces = s.mFwdIfaces)
    (hrules : s'.rules .localForward = s.rules .localForward) : Guarded s' := by
  refine ⟨hpairs ▸ h.keyed, ?_, ?_⟩
  · rw [hrules]
    exact h.body
  · rw [hrules, hpairs]
    exact h.counts

theorem guarded_setDefaults (hkeyed : s.mFwdIfaces.Keyed)
    (hnone : ¬s.mFwdIfaces.isAnyForwardingPairEnabled) : Guarded s.setDefaults.1 := by
  have hforward : s.setDefaults.1.rules .localForward = [.dropAll] := by
    simp [setDefaults_rules]
  refine ⟨?_, ⟨[], hforward, by simp⟩, ?_⟩
  · rw [setDefaults_mFwdIfaces]
    exact hkeyed
  · intro a x r hr
    have hinactive : ¬s.mFwdIfaces.isForwardingPairEnabled a x := fun h =>
      hnone ((isAnyForwardingPairEnabled_iff hkeyed).mpr ⟨a, x, h⟩)
    have hne : r ≠ .dropAll := by
      rintro rfl
      exact dropAll_not_mem_ofPair a x hr
    rw [setDefaults_mFwdIfaces, if_neg hinactive, hforward]
    exact count_eq_zero.mpr (by simpa using hne)

section

variable (h : Guarded s)
include h

theorem Guarded.setDefaultsIfIdle : Guarded s.setDefaultsIfIdle := by
  unfold State.setDefaultsIfIdle
  split
  · exact h
  · next hnone => exact guarded_setDefaults h.keyed hnone

theorem Guarded.enableNat (a x : String) : Guarded (s.enableNat a x).1 := by
  by_cases hidle : s.Idle a x
  · rw [enableNat_idle hidle]
    exact h
  obtain ⟨body, hbody, hkinds⟩ := h.body
  have hinactive := inactive_of_not_idle hidle
  obtain ⟨henabled, -⟩ := enableNat_spec hidle hbody (dropAll_not_mem hkinds)
  obtain ⟨alert, halert, hforward⟩ := henabled.forward
  refine ⟨?_, ⟨alert ++ body ++ ofPair a x, hforward, ?_⟩, ?_⟩
  · rw [henabled.mFwdIfaces]
    exact keyed_addForwardingPair h.keyed a x
  · intro r hr
    rcases mem_append.mp hr with hr | hr
    · rcases mem_append.mp hr with hr | hr
      · rcases halert with rfl | rfl
        · cases hr
        · exact .inl (mem_singleton.mp hr)
      · exact hkinds r hr
    · exact .inr ⟨a, x, hr⟩
  · intro b y r hr
    have hcount := h.counts b y r hr
    have halertCount : alert.count r = 0 := by
      refine count_eq_zero.mpr ?_
      rcases halert with rfl | rfl
      · simp
      rintro hmem
      rw [mem_singleton.mp hmem] at hr
      simp [ofPair, globalAlert, established, invalid, outgoing] at hr
    rw [hbody, count_append] at hcount
    rw [hforward, henabled.mFwdIfaces, isForwardingPairEnabled_addForwardingPair,
      count_append, count_append, count_append, halertCount,
      count_ofPair hr]
    by_cases heq : b = a ∧ y = x
    · obtain ⟨rfl, rfl⟩ := heq
      simp only [hinactive] at hcount
      simp at hcount ⊢
      omega
    · simp only [if_neg heq]
      omega

theorem Guarded.active_of_mem (hmem : r ∈ s.rules .localForward)
    (hr : r ∈ ofPair a x) : s.Active a x := by
  have hcount := h.counts a x r hr
  split at hcount
  · next hactive => exact hactive
  · exact absurd hmem (count_eq_zero.mp hcount)

theorem Guarded.removal (hr : State.Removal a x s s') : Guarded s' := by
  cases hr with
  | refused _ hrules hpairs => exact h.congr hpairs (by rw [hrules])
  | half _ _ hrules hpairs => exact h.congr hpairs (by simp [hrules])
  | done _ hpair hrules hpairs =>
    have hmem : outgoing a x ∈ ofPair a x := by simp [ofPair]
    have hactive : s.mFwdIfaces.isForwardingPairEnabled a x := h.active_of_mem (hpair _ hmem) hmem
    have hforward : s'.rules .localForward =
        (ofPair a x).foldl List.erase (s.rules .localForward) := by simp [hrules]
    refine ⟨?_, ?_, ?_⟩
    · rw [hpairs]
      exact keyed_markForwardingPairDisabled h.keyed a x
    · obtain ⟨body, hbody, hkinds⟩ := h.body
      refine ⟨(ofPair a x).foldl List.erase body, ?_, ?_⟩
      · rw [hforward, hbody, foldl_erase_concat _ _ (dropAll_not_mem_ofPair a x)]
      · intro r hr
        exact hkinds r (mem_of_mem_foldl_erase _ hr)
    · intro b y r hr
      rw [hforward, hpairs, count_foldl_erase _ _ _ (nodup_ofPair a x), h.counts b y r hr,
        isForwardingPairEnabled_markForwardingPairDisabled hactive]
      by_cases heq : b = a ∧ y = x
      · obtain ⟨rfl, rfl⟩ := heq
        simp [hr, hactive]
      · have hnot : r ∉ ofPair a x := fun hmem => heq (ofPair_inj hr hmem)
        simp [hnot, heq]

theorem Guarded.disableNat (a x : String) : Guarded (s.disableNat a x).1 := by
  cases hnames : isIfaceName a && isIfaceName x with
  | false =>
    rw [disableNat_invalid hnames]
    exact h
  | true =>
    rw [disableNat_valid hnames]
    exact (h.removal (removeForwardRules_spec a x s)).setDefaultsIfIdle

end

section

variable (tables : Iptables Chain Rule)

theorem init_mFwdIfaces (fwd : FwdIfaces) : (init tables fwd).mFwdIfaces = [] := by
  simp [init, State.setupIptablesHooks, State.setDefaults, State.iptablesRestore,
    execIptablesRestore, result, restore]

theorem init_rules (fwd : FwdIfaces) : (init tables fwd).rules .localForward = [.dropAll] ∧
      (init tables fwd).rules .localNatPostrouting = [] := by
  simp [init, State.setupIptablesHooks, State.setDefaults, State.iptablesRestore,
    execIptablesRestore, result, restore, State.rules]

theorem guarded_init (fwd : FwdIfaces) : Guarded (init tables fwd) := by
  have hforward := (init_rules tables fwd).1
  have hpairs := init_mFwdIfaces tables fwd
  refine ⟨by simp [hpairs, FwdIfaces.Keyed], ⟨[], hforward, by simp⟩, ?_⟩
  intro a x r hr
  have hne : r ≠ .dropAll := by
    rintro rfl
    exact dropAll_not_mem_ofPair a x hr
  rw [hforward, hpairs]
  exact count_eq_zero.mpr (by simpa using hne)

end

theorem Guarded.step {c : Call} (h : Guarded s) (hs : step c s = some s') : Guarded s' := by
  cases hs
  cases c with
  | enableNat a x => exact h.enableNat a x
  | disableNat a x => exact h.disableNat a x

/-- A packet is dropped at the end of the chain, unless a rule of a pair sends it to the
counters. -/
theorem traverse_body (p : Packet) (h : ∀ r ∈ body, r = .globalAlert ∨ ∃ a x, r ∈ ofPair a x) :
    traverse p (body ++ [.dropAll]) = .dropped ∨
      traverse p (body ++ [.dropAll]) = .counters ∧
        ∃ r ∈ body, r.isMatch p ∧ r.target = .gotoCounters := by
  induction body with
  | nil => exact .inl rfl
  | cons r body ih =>
    have ih := ih fun q hq => h q (mem_cons_of_mem _ hq)
    have hlater : traverse p (r :: (body ++ [.dropAll])) = traverse p (body ++ [.dropAll]) →
        traverse p (r :: body ++ [.dropAll]) = .dropped ∨
          traverse p (r :: body ++ [.dropAll]) = .counters ∧
            ∃ q ∈ r :: body, q.isMatch p ∧ q.target = .gotoCounters := by
      intro heq
      rcases ih with hdropped | ⟨hcounters, q, hq, hspec⟩
      · exact .inl (heq.trans hdropped)
      · exact .inr ⟨heq.trans hcounters, q, mem_cons_of_mem _ hq, hspec⟩
    by_cases hmatch : r.isMatch p
    · rcases h r mem_cons_self with rfl | ⟨a, x, hr⟩
      · exact hlater (by rw [traverse, if_pos hmatch]; rfl)
      simp only [ofPair, mem_cons, not_mem_nil, or_false] at hr
      rcases hr with rfl | rfl | rfl
      · exact .inr ⟨traverse_gotoCounters _ hmatch rfl, _, mem_cons_self, hmatch, rfl⟩
      · exact .inl (by rw [cons_append, traverse, if_pos hmatch]; rfl)
      · exact .inr ⟨traverse_gotoCounters _ hmatch rfl, _, mem_cons_self, hmatch, rfl⟩
    · exact hlater (by rw [traverse, if_neg hmatch])

theorem ifaces_of_isMatch {p : Packet} (hr : r ∈ ofPair a x) (hmatch : r.isMatch p) :
    (p.inIface = a ∧ p.outIface = x) ∨ (p.inIface = x ∧ p.outIface = a) := by
  simp only [ofPair, mem_cons, not_mem_nil, or_false] at hr
  rcases hr with rfl | rfl | rfl
  · simp only [isMatch, established, all_some, Bool.and_eq_true, decide_eq_true_eq] at hmatch
    exact .inr ⟨hmatch.1.1.1.symm, hmatch.1.1.2.symm⟩
  · simp only [isMatch, invalid, all_some, Bool.and_eq_true, decide_eq_true_eq] at hmatch
    exact .inl ⟨hmatch.1.1.1.symm, hmatch.1.1.2.symm⟩
  simp only [isMatch, outgoing, all_some, Bool.and_eq_true, decide_eq_true_eq] at hmatch
  exact .inl ⟨hmatch.1.1.1.symm, hmatch.1.1.2.symm⟩

/-- After any calls the chain for forwarded packets ends with the rule that drops everything, has no
other unconditional rule than the jump to the alerts, and sends to the counters only packets of an
active pair. -/
theorem forwards_active_pairs (tables : Iptables Chain Rule) (fwd : FwdIfaces) {calls : List Call}
    {s : State} (hrun : Lts.Run step (fun _ _ => True) (init tables fwd) calls s) :
    (∃ body, s.rules .localForward = body ++ [.dropAll] ∧
      ∀ r ∈ body, r.isUnconditional → r.target = .jumpGlobalAlert) ∧
    ∀ p, traverse p (s.rules .localForward) = .dropped ∨
      traverse p (s.rules .localForward) = .counters ∧
        (s.Active p.inIface p.outIface ∨ s.Active p.outIface p.inIface) := by
  have h := hrun.invariant (I := fun _ s => Guarded s) (guarded_init tables fwd)
    fun h _ hs => h.step hs
  obtain ⟨body, hbody, hkinds⟩ := h.body
  refine ⟨⟨body, hbody, ?_⟩, ?_⟩
  · intro r hr hcond
    rcases hkinds r hr with rfl | ⟨a, x, hpair⟩
    · rfl
    · simp only [ofPair, mem_cons, not_mem_nil, or_false] at hpair
      rcases hpair with rfl | rfl | rfl <;> cases hcond
  · intro p
    rw [hbody]
    refine (traverse_body p hkinds).imp_right ?_
    rintro ⟨hcounters, r, hr, hmatch, htarget⟩
    refine ⟨hcounters, ?_⟩
    rcases hkinds r hr with rfl | ⟨a, x, hpair⟩
    · cases htarget
    have hactive := h.active_of_mem (hbody ▸ mem_append_left _ hr) hpair
    rcases ifaces_of_isMatch hpair hmatch with ⟨rfl, rfl⟩ | ⟨rfl, rfl⟩
    · exact .inl hactive
    · exact .inr hactive

/-- Two pairs, one of which is disabled again. -/
def sampleCalls : List Call :=
  [.enableNat "wlan0" "rmnet0", .enableNat "usb0" "rmnet0", .disableNat "wlan0" "rmnet0"]

def emptyTables : Iptables Chain Rule := ⟨fun _ => [], fun _ => []⟩

theorem forwards_active_pairs_sample :
    ∃ s, Lts.Run step (fun _ _ => True) (init emptyTables []) sampleCalls.reverse s ∧
      s.rules .localForward = .globalAlert :: (ofPair "usb0" "rmnet0" ++ [.dropAll]) ∧
      (∃ body, s.rules .localForward = body ++ [.dropAll] ∧
        ∀ r ∈ body, r.isUnconditional → r.target = .jumpGlobalAlert) ∧
      ∀ p, traverse p (s.rules .localForward) = .dropped ∨
        traverse p (s.rules .localForward) = .counters ∧
          (s.Active p.inIface p.outIface ∨ s.Active p.outIface p.inIface) :=
  Lts.run_of_mem_and sampleCalls (by decide +kernel) (forwards_active_pairs emptyTables [])

end Netd.Tether
