import Netd.Server.BandwidthController

/-!
# The rules of quotas and alerts

Every rule that the controller adds has an owner: an interface that shares the quota, the shared
quota or its alert, or an interface with a quota of its own. `parts` has the rules that each owner
has by the records of the controller, and `Fits` says that a table has those.
-/

namespace Netd.Bandwidth

open RuleTable List View Netd.Bandwidth.Rule Function State

/-- What a rule is there for. -/
inductive Owner where
  | base
  | share (iface : String)
  | sharedQuota
  | sharedAlert
  | quota (iface : String)
  deriving DecidableEq

/-- The owner of a rule, by its chain and what it names. -/
def owner : Entry Chain Rule → Owner
  | ⟨.costly cost, rule⟩ =>
    if cost = sharedCost then
      match rule with
      | .quota _ => .sharedQuota
      | .alert _ => .sharedAlert
      | _ => .base
    else .quota cost
  | ⟨_, .jumpIn iface cost⟩ | ⟨_, .jumpOut iface cost⟩ =>
    if cost = sharedCost then .share iface else .quota cost
  | _ => .base

/-- The jumps of an interface, the last one added first. -/
def jumps (iface cost : String) : List (Entry Chain Rule) :=
  [⟨.bwForward, .jumpOut iface cost⟩, ⟨.bwForward, .jumpIn iface cost⟩,
    ⟨.bwOutput, .jumpOut iface cost⟩, ⟨.bwInput, .jumpIn iface cost⟩]

/-- The rule of an alert, if there is one. -/
def alertPart (cost : String) (alertBytes : Int) : List (Entry Chain Rule) :=
  if alertBytes = 0 then [] else [⟨.costly cost, .alert (alertName cost)⟩]

/-- The rules of a quota of its own. -/
def quotaPart (iface : String) : Option QuotaInfo → List (Entry Chain Rule)
  | none => []
  | some info =>
    alertPart iface info.alert ++ ⟨.costly iface, .quota iface⟩ :: jumps iface iface ++
      [⟨.costly iface, .penaltyBox⟩]

/-- The jumps of an interface that shares the quota. -/
def sharePart (ifaces : Finset String) (iface : String) : List (Entry Chain Rule) :=
  if iface ∈ ifaces then jumps iface sharedCost else []

/-- The rule of the shared quota, while interfaces share it. -/
def sharedPart (ifaces : Finset String) : List (Entry Chain Rule) :=
  if ifaces = ∅ then [] else [⟨.costly sharedCost, .quota sharedCost⟩]

/-- The rules that each owner is to have. -/
def parts (base : Multiset (Entry Chain Rule)) (s : State) : Owner → Multiset (Entry Chain Rule)
  | .base => base
  | .share iface => sharePart s.mSharedQuotaIfaces iface
  | .sharedQuota => sharedPart s.mSharedQuotaIfaces
  | .sharedAlert => alertPart sharedCost s.mSharedAlertBytes
  | .quota iface => quotaPart iface (s.mQuotaIfaces iface)

/-- The table has the rules that the records say, and the chains of the quotas. -/
structure Fits (base : Multiset (Entry Chain Rule)) (s : State) (v : View Chain Rule) : Prop where
  rules : Owned owner (parts base s) v.rules
  plain : ∀ x ∈ base, x.rule = .penaltyBox ∨ x.rule = .fixed
  chain : ∀ iface, s.mQuotaIfaces iface ≠ none → .costly iface ∈ v.chains
  shared : s.mQuotaIfaces sharedCost = none

/-- The section takes tables that fit the one state to tables that fit the other. -/
def Moves (lines : List (Line Chain Rule)) (s s' : State) : Prop :=
  ∀ ⦃base v⦄, Fits base s v → ∃ v', View.commit target lines v = some v' ∧ Fits base s' v'

variable {base : Multiset (Entry Chain Rule)} {s s' : State} {v : View Chain Rule}
  {iface cost : String} {x : Entry Chain Rule}

/-! ## Owners -/

/-- The jumps of an interface belong to the quota that they lead to. -/
theorem owner_jumps (hx : x ∈ jumps iface cost) :
    owner x = if cost = sharedCost then .share iface else .quota cost := by
  simp only [jumps, mem_cons, not_mem_nil, or_false] at hx
  rcases hx with rfl | rfl | rfl | rfl <;> rfl

theorem owner_costly (hne : iface ≠ sharedCost) (hx : x.chain = .costly iface) :
    owner x = .quota iface := by
  obtain ⟨chain, rule⟩ := x
  cases hx
  exact if_neg hne

variable {info : QuotaInfo} {n : Int} {ifaces : Finset String}
  {owned : Owner → Multiset (Entry Chain Rule)} {o : Owner}

theorem mem_quotaPart (cost : String) (hx : x ∈ quotaPart iface (some info)) :
    x ∈ jumps iface iface ∨ x.chain = .costly iface ∧ x.rule.target ≠ some (.costly cost) := by
  rcases mem_append.mp hx with hx | hx
  · rcases mem_append.mp hx with hx | hx
    · unfold alertPart at hx
      split at hx
      · cases hx
      · rw [mem_singleton.mp hx]
        exact .inr ⟨rfl, by simp [target]⟩
    · rcases mem_cons.mp hx with rfl | hx
      · exact .inr ⟨rfl, by simp [target]⟩
      · exact .inl hx
  · rw [mem_singleton.mp hx]
    exact .inr ⟨rfl, by simp [target]⟩

theorem owner_quotaPart (hne : iface ≠ sharedCost) {info : Option QuotaInfo}
    (hx : x ∈ quotaPart iface info) : owner x = .quota iface := by
  cases info with
  | none => cases hx
  | some info =>
    rcases mem_quotaPart iface hx with hx | hx
    · rw [owner_jumps hx, if_neg hne]
    · exact owner_costly hne hx.1

theorem target_jumps (hx : x ∈ jumps iface cost) : x.rule.target = some (.costly cost) := by
  simp only [jumps, mem_cons, not_mem_nil, or_false] at hx
  rcases hx with rfl | rfl | rfl | rfl <;> rfl

theorem mem_jumps_of_sharePart (hx : x ∈ sharePart ifaces iface) : x ∈ jumps iface sharedCost := by
  unfold sharePart at hx
  split at hx
  · exact hx
  · cases hx

theorem eq_of_mem_sharedPart (hx : x ∈ sharedPart ifaces) :
    x = ⟨.costly sharedCost, .quota sharedCost⟩ := by
  unfold sharedPart at hx
  split at hx
  · cases hx
  · exact mem_singleton.mp hx

theorem target_alertPart (hx : x ∈ alertPart cost n) : x.rule.target = none := by
  unfold alertPart at hx
  split at hx
  · cases hx
  · rw [mem_singleton.mp hx, target]

/-- Only the rules of a quota jump to its chain. -/
theorem Fits.owner_of_target (hfits : Fits base s v) (hne : iface ≠ sharedCost) (hx : x ∈ v.rules)
    (htarget : x.rule.target = some (.costly iface)) : owner x = .quota iface := by
  have hpart := hfits.rules.mem hx
  cases hown : owner x with
  | base =>
    rw [hown] at hpart
    rcases hfits.plain x hpart with hrule | hrule <;> rw [hrule] at htarget <;> cases htarget
  | share iface' =>
    rw [hown] at hpart
    rw [target_jumps (mem_jumps_of_sharePart hpart)] at htarget
    cases htarget
    exact absurd rfl hne
  | sharedQuota =>
    rw [hown] at hpart
    rw [eq_of_mem_sharedPart hpart] at htarget
    cases htarget
  | sharedAlert =>
    rw [hown] at hpart
    rw [target_alertPart hpart] at htarget
    cases htarget
  | quota iface' =>
    rw [hown] at hpart
    simp only [parts] at hpart
    cases hinfo : s.mQuotaIfaces iface' with
    | none =>
      rw [hinfo] at hpart
      exact absurd hpart (Multiset.notMem_zero x)
    | some info =>
      rw [hinfo] at hpart
      rcases mem_quotaPart iface hpart with hjump | hrest
      · rw [target_jumps hjump] at htarget
        cases htarget
        rfl
      · exact absurd htarget hrest.2

/-! ## Sections of lines that only add and delete rules -/

def IsEdit : Line Chain Rule → Prop
  | .append _ _ | .insert _ _ _ | .delete _ _ => True
  | .declare _ | .flush _ | .remove _ => False

theorem IsEdit.spares {l : Line Chain Rule} (hl : IsEdit l) (others : Multiset (Entry Chain Rule)) :
    l.Spares target others := by
  cases l with
  | append c r | insert c pos r | delete c r => trivial
  | declare c | flush c | remove c => exact hl.elim

theorem isEdit_addJumps (pos : Nat) : ∀ l ∈ addJumps pos iface cost, IsEdit l := by
  simp [addJumps, IsEdit]

theorem isEdit_deleteJumps : ∀ l ∈ deleteJumps iface cost, IsEdit l := by
  simp [deleteJumps, IsEdit]

/-- The jumps come, and nothing else changes. -/
theorem commit_addJumps (pos : Nat) (v : View Chain Rule) :
    View.commit target (addJumps pos iface cost) v =
      some ⟨v.chains, jumps iface cost + v.rules⟩ := by
  simp only [jumps, ← Multiset.cons_coe, Multiset.cons_add, Multiset.coe_nil, Multiset.zero_add]
  rfl

/-- The jumps go, and nothing else changes. -/
theorem commit_deleteJumps (iface cost : String) (chains : List Chain)
    (rules : Multiset (Entry Chain Rule)) :
    View.commit target (deleteJumps iface cost) ⟨chains, jumps iface cost + rules⟩ =
      some ⟨chains, rules⟩ := by
  have hswap : (jumps iface cost : Multiset (Entry Chain Rule)) + rules =
      ⟨.bwInput, .jumpIn iface cost⟩ ::ₘ ⟨.bwOutput, .jumpOut iface cost⟩ ::ₘ
        ⟨.bwForward, .jumpIn iface cost⟩ ::ₘ ⟨.bwForward, .jumpOut iface cost⟩ ::ₘ rules := by
    have hperm : (jumps iface cost).Perm (jumps iface cost).reverse := (reverse_perm _).symm
    rw [Multiset.coe_eq_coe.mpr hperm]
    simp only [jumps, reverse_cons, reverse_nil, nil_append, cons_append,
      ← Multiset.cons_coe, Multiset.cons_add, Multiset.coe_nil, Multiset.zero_add]
  rw [hswap, deleteJumps, commit_delete, commit_delete, commit_delete, commit_delete, commit_nil]

variable {new : Multiset (Entry Chain Rule)} {c : Chain} {r : Rule} {iface' : String}

section

variable (h : Owned owner owned v.rules)
include h

/-- A section of such lines about one owner. -/
theorem edit_owned {lines : List (Line Chain Rule)} (hedit : ∀ l ∈ lines, IsEdit l)
    (hcommit : View.commit target lines ⟨v.chains, owned o⟩ = some ⟨v.chains, new⟩)
    (hnew : ∀ x ∈ new, owner x = o) :
    ∃ w, View.commit target lines v = some w ∧ w.chains = v.chains ∧
      Owned owner (update owned o new) w.rules :=
  h.commit o (fun l hl => (hedit l hl).spares _) hcommit hnew

/-- One more rule for an owner. -/
theorem append_owned (hx : owner ⟨c, r⟩ = o) :
    ∃ w, View.commit target [.append c r] v = some w ∧ w.chains = v.chains ∧
      Owned owner (update owned o (⟨c, r⟩ ::ₘ owned o)) w.rules := by
  refine edit_owned h (by simp [IsEdit]) rfl fun x hmem => ?_
  rcases Multiset.mem_cons.mp hmem with rfl | hmem
  · exact hx
  · exact (h.mem_iff.mp hmem).2

/-- One rule less for an owner. -/
theorem delete_owned (hnew : owned o = ⟨c, r⟩ ::ₘ new) :
    ∃ w, View.commit target [.delete c r] v = some w ∧ w.chains = v.chains ∧
      Owned owner (update owned o new) w.rules := by
  refine edit_owned h (by simp [IsEdit]) ?_ fun x hmem => ?_
  · rw [hnew, commit_delete, commit_nil]
  · refine (h.mem_iff.mp ?_).2
    rw [hnew]
    exact Multiset.mem_cons_of_mem hmem

end

/-! ## Alerts -/

theorem parts_sharedAlert (n : Int) : parts base { s with mSharedAlertBytes := n } =
      update (parts base s) .sharedAlert (alertPart sharedCost n) := by
  funext o
  cases o <;> rfl

@[simp] theorem mQuotaIfaces_self (info : Option QuotaInfo) :
    (s.setQuotaIface iface info).mQuotaIfaces iface = info := by
  simp [setQuotaIface]

theorem mQuotaIfaces_of_ne (hne : iface' ≠ iface) (info : Option QuotaInfo) :
    (s.setQuotaIface iface info).mQuotaIfaces iface' = s.mQuotaIfaces iface' := by
  simp [setQuotaIface, hne]

theorem forall_setQuotaIface {info : Option QuotaInfo} {P : String → QuotaInfo → Prop}
    (hself : ∀ info' ∈ info, P iface info')
    (hother : ∀ iface' ≠ iface, ∀ info', s.mQuotaIfaces iface' = some info' → P iface' info') :
    ∀ iface' info', (s.setQuotaIface iface info).mQuotaIfaces iface' = some info' →
      P iface' info' := by
  intro iface' info' h
  by_cases heq : iface' = iface
  · subst heq
    exact hself info' ((mQuotaIfaces_self info).symm.trans h)
  · exact hother iface' heq info' ((mQuotaIfaces_of_ne heq info).symm.trans h)

/-- New data for an interface change only the rules of its quota. -/
theorem parts_setQuotaIface (info : Option QuotaInfo) : parts base (s.setQuotaIface iface info) =
      update (parts base s) (.quota iface) (quotaPart iface info) := by
  funext o
  cases o with
  | quota iface' =>
    by_cases heq : iface' = iface
    · subst heq
      simp [parts]
    · simp [parts, mQuotaIfaces_of_ne heq, heq]
  | base | share iface' | sharedQuota | sharedAlert => rfl

theorem alertPart_of_ne (hn : n ≠ 0) :
    alertPart cost n = [⟨.costly cost, .alert (alertName cost)⟩] :=
  if_neg hn

theorem quotaPart_of_alert (info : QuotaInfo) (hinfo : info.alert = 0) (hn : n ≠ 0) :
    (quotaPart iface (some { info with alert := n }) : Multiset (Entry Chain Rule)) =
      ⟨.costly iface, .alert (alertName iface)⟩ ::ₘ quotaPart iface (some info) := by
  simp [quotaPart, alertPart, hinfo, hn]

theorem moves_addSharedAlert (halert : s.mSharedAlertBytes = 0) (hn : n ≠ 0) :
    Moves [.append (.costly sharedCost) (.alert (alertName sharedCost))] s
      { s with mSharedAlertBytes := n } := by
  intro base v hfits
  have hpart : (alertPart sharedCost n : Multiset (Entry Chain Rule)) =
      ⟨.costly sharedCost, .alert (alertName sharedCost)⟩ ::ₘ parts base s .sharedAlert := by
    simp only [parts, halert, alertPart_of_ne hn]
    rfl
  have hown : owner ⟨.costly sharedCost, .alert (alertName sharedCost)⟩ = .sharedAlert := by
    simp [owner]
  obtain ⟨w, hw, hchains, howned⟩ := append_owned hfits.rules hown
  rw [← hpart, ← parts_sharedAlert] at howned
  exact ⟨w, hw, howned, hfits.plain, hchains ▸ hfits.chain, hfits.shared⟩

theorem moves_deleteSharedAlert (halert : s.mSharedAlertBytes ≠ 0) :
    Moves [.delete (.costly sharedCost) (.alert (alertName sharedCost))] s
      { s with mSharedAlertBytes := 0 } := by
  intro base v hfits
  have hpart : parts base s .sharedAlert =
      ⟨.costly sharedCost, .alert (alertName sharedCost)⟩ ::ₘ alertPart sharedCost 0 := by
    simp only [parts, alertPart_of_ne halert]
    rfl
  obtain ⟨w, hw, hchains, howned⟩ := delete_owned hfits.rules hpart
  rw [← parts_sharedAlert] at howned
  exact ⟨w, hw, howned, hfits.plain, hchains ▸ hfits.chain, hfits.shared⟩

theorem Fits.ne_shared (hfits : Fits base s v) (hinfo : s.mQuotaIfaces iface = some info) :
    iface ≠ sharedCost := by
  rintro rfl
  rw [hfits.shared] at hinfo
  cases hinfo

/-- New data for an interface. -/
theorem Fits.setQuotaIface {info : Option QuotaInfo} {w : View Chain Rule} (hfits : Fits base s v)
    (hne : iface ≠ sharedCost) (howned : Owned owner (update (parts base s) (.quota iface)
      (quotaPart iface info)) w.rules)
    (hchain : ∀ iface' ≠ iface, .costly iface' ∈ v.chains → .costly iface' ∈ w.chains)
    (hself : info ≠ none → .costly iface ∈ w.chains) :
    Fits base (s.setQuotaIface iface info) w := by
  rw [← parts_setQuotaIface] at howned
  refine ⟨howned, hfits.plain, fun iface' hsome => ?_, ?_⟩
  · by_cases heq : iface' = iface
    · subst heq
      rw [mQuotaIfaces_self] at hsome
      exact hself hsome
    · rw [mQuotaIfaces_of_ne heq] at hsome
      exact hchain iface' heq (hfits.chain iface' hsome)
  · rw [mQuotaIfaces_of_ne hne.symm]
    exact hfits.shared

/-- A quota gets an alert. -/
theorem moves_addAlert (hinfo : s.mQuotaIfaces iface = some info) (halert : info.alert = 0)
    (hn : n ≠ 0) :
    Moves [.append (.costly iface) (.alert (alertName iface))] s
      (s.setQuotaIface iface (some { info with alert := n })) := by
  intro base v hfits
  have hne := hfits.ne_shared hinfo
  have hpart : (quotaPart iface (some { info with alert := n }) : Multiset (Entry Chain Rule)) =
      ⟨.costly iface, .alert (alertName iface)⟩ ::ₘ parts base s (.quota iface) := by
    simp only [parts, hinfo]
    exact quotaPart_of_alert info halert hn
  obtain ⟨w, hw, hchains, howned⟩ := append_owned hfits.rules (owner_costly hne rfl)
  rw [← hpart] at howned
  have hchain : .costly iface ∈ w.chains := by
    rw [hchains]
    exact hfits.chain iface (by simp [hinfo])
  exact ⟨w, hw, hfits.setQuotaIface hne howned (fun _ _ h => hchains ▸ h) fun _ => hchain⟩

theorem moves_deleteAlert (hinfo : s.mQuotaIfaces iface = some info) (halert : info.alert ≠ 0) :
    Moves [.delete (.costly iface) (.alert (alertName iface))] s
      (s.setQuotaIface iface (some { info with alert := 0 })) := by
  intro base v hfits
  have hpart : parts base s (.quota iface) =
      ⟨.costly iface, .alert (alertName iface)⟩ ::ₘ
        quotaPart iface (some { info with alert := 0 }) := by
    simp only [parts, hinfo]
    exact quotaPart_of_alert { info with alert := 0 } rfl halert
  obtain ⟨w, hw, hchains, howned⟩ := delete_owned hfits.rules hpart
  have hchain : .costly iface ∈ w.chains := by
    rw [hchains]
    exact hfits.chain iface (by simp [hinfo])
  exact ⟨w, hw, hfits.setQuotaIface (hfits.ne_shared hinfo) howned (fun _ _ h => hchains ▸ h)
    fun _ => hchain⟩

/-! ## Quotas of interfaces -/

theorem Fits.others (hfits : Fits base s v) (hne : iface ≠ sharedCost) :
    ∀ x ∈ v.rules.filter (fun x => owner x ≠ .quota iface),
      x.chain ≠ .costly iface ∧ x.rule.target ≠ some (.costly iface) := by
  intro x hx
  obtain ⟨hmem, hother⟩ := Multiset.mem_filter.mp hx
  exact ⟨fun hchain => hother (owner_costly hne hchain),
    fun htarget => hother (hfits.owner_of_target hne hmem htarget)⟩

/-- An interface gets a quota of its own. -/
theorem moves_addQuota (maxBytes : Int) (hinfo : s.mQuotaIfaces iface = none)
    (hne : iface ≠ sharedCost) :
    Moves (s.quotaSection iface maxBytes).lines s (s.setQuotaIface iface (some ⟨maxBytes, 0⟩)) := by
  intro base v hfits
  have hspares : ∀ l ∈ (s.quotaSection iface maxBytes).lines,
      l.Spares target (v.rules.filter fun x => owner x ≠ .quota iface) := by
    intro l hl
    simp only [quotaSection, cons_append, nil_append, mem_cons,
      mem_append, not_mem_nil, or_false] at hl
    rcases hl with rfl | rfl | hl | rfl
    · exact fun x hx => (hfits.others hne x hx).1
    · trivial
    · exact (isEdit_addJumps _ l hl).spares _
    · trivial
  have hcommit : View.commit target (s.quotaSection iface maxBytes).lines
      ⟨v.chains, parts base s (.quota iface)⟩ =
        some ⟨if .costly iface ∈ v.chains then v.chains else .costly iface :: v.chains,
          quotaPart iface (some ⟨maxBytes, 0⟩)⟩ := by
    simp only [parts, hinfo]
    rfl
  obtain ⟨w, hw, hchains, howned⟩ := hfits.rules.commit (.quota iface) hspares hcommit
    fun x hx => owner_quotaPart hne hx
  refine ⟨w, hw, hfits.setQuotaIface hne howned (fun iface' _ hmem => ?_) fun _ => ?_⟩
  · rw [hchains]
    split
    · exact hmem
    · exact mem_cons_of_mem _ hmem
  · rw [hchains]
    split
    · assumption
    · exact mem_cons_self

def chainPart (iface : String) (info : QuotaInfo) : List (Entry Chain Rule) :=
  alertPart iface info.alert ++ [⟨.costly iface, .quota iface⟩, ⟨.costly iface, .penaltyBox⟩]

theorem coe_quotaPart (info : QuotaInfo) :
    (quotaPart iface (some info) : Multiset (Entry Chain Rule)) =
      jumps iface iface + chainPart iface info := by
  have hperm : ((alertPart iface info.alert ++ [⟨.costly iface, .quota iface⟩] ++
      jumps iface iface : List (Entry Chain Rule))).Perm
        (jumps iface iface ++ (alertPart iface info.alert ++ [⟨.costly iface, .quota iface⟩])) :=
    perm_append_comm
  simpa [quotaPart, chainPart] using hperm.append_right [⟨.costly iface, .penaltyBox⟩]

theorem chain_of_mem_chainPart (hx : x ∈ chainPart iface info) : x.chain = .costly iface := by
  simp only [chainPart, alertPart, mem_append, mem_cons, not_mem_nil, or_false] at hx
  rcases hx with hx | rfl | rfl
  · split at hx
    · cases hx
    · rw [mem_singleton.mp hx]
  · rfl
  · rfl

theorem commit_unquotaSection {chains : List Chain} (hchain : .costly iface ∈ chains) :
    View.commit target (unquotaSection iface).lines
        ⟨chains, quotaPart iface (some info)⟩ =
      some ⟨chains.filter fun d => d ≠ .costly iface, 0⟩ := by
  have hflush : (chainPart iface info : Multiset (Entry Chain Rule)).filter
      (fun x => x.chain ≠ .costly iface) = 0 :=
    Multiset.filter_eq_nil.mpr fun x hx => not_not.mpr (chain_of_mem_chainPart hx)
  rw [coe_quotaPart, unquotaSection, commit_concat, commit_deleteJumps,
    Option.bind_some, commit_flush _ _ _ hchain, hflush,
    commit_remove _ _ _ hchain (by simp), commit_nil]

/-- An interface loses its quota, with its alert. -/
theorem moves_removeQuota (hinfo : s.mQuotaIfaces iface = some info) :
    Moves (unquotaSection iface).lines s (s.setQuotaIface iface none) := by
  intro base v hfits
  have hne := hfits.ne_shared hinfo
  have hspares : ∀ l ∈ (unquotaSection iface).lines,
      l.Spares target (v.rules.filter fun x => owner x ≠ .quota iface) := by
    intro l hl
    simp only [unquotaSection, mem_cons, mem_append, not_mem_nil, or_false] at hl
    rcases hl with hl | rfl | rfl
    · exact (isEdit_deleteJumps l hl).spares _
    · exact fun x hx => (hfits.others hne x hx).1
    · exact hfits.others hne
  have hcommit : View.commit target (unquotaSection iface).lines
      ⟨v.chains, parts base s (.quota iface)⟩ =
        some ⟨v.chains.filter fun d => d ≠ .costly iface, quotaPart iface none⟩ := by
    simp only [parts, hinfo]
    exact commit_unquotaSection (hfits.chain iface (by simp [hinfo]))
  obtain ⟨w, hw, hchains, howned⟩ := hfits.rules.commit (.quota iface) hspares hcommit
    fun x hx => owner_quotaPart hne hx
  refine ⟨w, hw, hfits.setQuotaIface hne howned (fun iface' hne' hmem => ?_) fun h => ?_⟩
  · rw [hchains]
    exact mem_filter.mpr ⟨hmem, by simpa using hne'⟩
  · exact absurd rfl h

/-! ## The shared quota -/

theorem parts_share (hsame : ∀ iface' ≠ iface, (iface' ∈ ifaces ↔ iface' ∈ s.mSharedQuotaIfaces)) :
    parts base { s with mSharedQuotaIfaces := ifaces } =
      update (update (parts base s) (.share iface) (sharePart ifaces iface))
        .sharedQuota (sharedPart ifaces) := by
  funext o
  cases o with
  | share iface' =>
    by_cases heq : iface' = iface
    · subst heq
      simp [parts]
    · simp [parts, sharePart, hsame iface' heq, heq]
  | sharedQuota | base | sharedAlert | quota iface' => rfl

/-- A section that first gives an interface its part, and then the shared quota. -/
theorem moves_shared (iface : String) {jumpLines quotaLines : List (Line Chain Rule)}
    (hsame : ∀ iface' ≠ iface, (iface' ∈ ifaces ↔ iface' ∈ s.mSharedQuotaIfaces))
    (hjumpLines : ∀ l ∈ jumpLines, IsEdit l) (hquotaLines : ∀ l ∈ quotaLines, IsEdit l)
    (hjumps : ∀ chains, View.commit target jumpLines
      ⟨chains, sharePart s.mSharedQuotaIfaces iface⟩ = some ⟨chains, sharePart ifaces iface⟩)
    (hquota : ∀ chains, View.commit target quotaLines
      ⟨chains, sharedPart s.mSharedQuotaIfaces⟩ = some ⟨chains, sharedPart ifaces⟩) :
    Moves (jumpLines ++ quotaLines) s { s with mSharedQuotaIfaces := ifaces } := by
  intro base v hfits
  obtain ⟨w, hw, hchains, howned⟩ := edit_owned (o := .share iface) hfits.rules hjumpLines
    (hjumps v.chains)
    fun x hx => (owner_jumps (mem_jumps_of_sharePart hx)).trans (if_pos rfl)
  obtain ⟨w', hw', hchains', howned'⟩ := edit_owned (o := .sharedQuota) howned hquotaLines
    (hquota w.chains)
    fun x hx => by simp [eq_of_mem_sharedPart hx, owner]
  rw [← parts_share hsame] at howned'
  have hall : w'.chains = v.chains := hchains'.trans hchains
  refine ⟨w', ?_, howned', hfits.plain, hall ▸ hfits.chain, hfits.shared⟩
  rw [commit_concat, hw, Option.bind_some, hw']

/-- An interface begins to share the quota. -/
theorem moves_share (maxBytes : Int) (hiface : iface ∉ s.mSharedQuotaIfaces) :
    Moves (s.shareSection iface maxBytes).lines s
      { s with mSharedQuotaIfaces := insert iface s.mSharedQuotaIfaces } := by
  refine moves_shared iface (fun iface' hne => by simp [hne]) (isEdit_addJumps _) ?_
    (fun chains => ?_) fun chains => ?_
  · split <;> simp [IsEdit]
  · rw [commit_addJumps]
    simp [sharePart, hiface]
  · by_cases hempty : s.mSharedQuotaIfaces = ∅
    · simp [sharedPart, hempty]
    · simp [sharedPart, hempty]

/-- An interface shares the quota no more. -/
theorem moves_unshare (hiface : iface ∈ s.mSharedQuotaIfaces) :
    Moves (s.unshareSection iface).lines s
      { s with mSharedQuotaIfaces := s.mSharedQuotaIfaces.erase iface } := by
  have hne : s.mSharedQuotaIfaces ≠ ∅ := Finset.ne_empty_of_mem hiface
  have hlast : s.mSharedQuotaIfaces.card = 1 ↔ s.mSharedQuotaIfaces.erase iface = ∅ := by
    rw [← Finset.card_eq_zero, Finset.card_erase_of_mem hiface]
    have := Finset.card_pos.mpr ⟨iface, hiface⟩
    omega
  refine moves_shared iface (fun iface' hne => by simp [hne]) isEdit_deleteJumps ?_
    (fun chains => ?_) fun chains => ?_
  · split <;> simp [IsEdit]
  · have hcommit := commit_deleteJumps iface sharedCost chains 0
    simpa [sharePart, hiface] using hcommit
  · by_cases hcard : s.mSharedQuotaIfaces.card = 1
    · simp only [sharedPart, if_neg hne, if_pos hcard, if_pos (hlast.mp hcard)]
      exact commit_delete target [] _ _ chains 0
    · simp only [sharedPart, if_neg hne, if_neg hcard, if_neg (mt hlast.mpr hcard)]
      rfl

end Netd.Bandwidth
