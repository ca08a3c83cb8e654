import Netd.Lib.RuleChains

/-!
# FirewallController: the chains of uids

The child chains of the firewall with iptables, in the table of one family: a call succeeds if it
does in both. `iptables-restore` refuses negative uids.
-/

namespace Netd.Firewall

open List RuleChains Function Option

inductive FirewallRule where
  | allow
  | deny
  deriving DecidableEq

inductive FirewallType where
  | whitelist
  | blacklist
  deriving DecidableEq

inductive ChildChain where
  | dozable
  | standby
  | powersave
  deriving DecidableEq

/-- What the rules ask of a packet besides its uid: `-i lo`, `-o lo`, `-p tcp --tcp-flags RST RST`,
`-p esp` and `-p icmpv6 --icmpv6-type`. -/
inductive Trait where
  | loIn
  | loOut
  | tcpRst
  | esp
  | icmpv6 (type : Nat)
  deriving DecidableEq

/-- `uid` is that of the socket, if there is one. -/
structure Packet where
  uid : Option Nat
  traits : List Trait

inductive Match where
  | uidOwner (invert : Bool) (first last : Nat)
  | trait (x : Trait)
  | all
  deriving DecidableEq

def Match.holds (p : Packet) : Match → Bool
  | .uidOwner invert first last => invert ^^ p.uid.any fun uid => first ≤ uid && uid ≤ last
  | .trait x => x ∈ p.traits
  | .all => true

inductive Target where
  | ret
  | drop
  deriving DecidableEq

structure Rule where
  cond : Match
  target : Target
  deriving DecidableEq

abbrev Table := Chains ChildChain Rule

/-- The first rule that matches decides. -/
def dropped (p : Packet) : List Rule → Bool
  | [] => false
  | r :: rs => if r.cond.holds p then r.target = .drop else dropped p rs

def maxSystemUid : Nat := 9999

/-- `ICMPV6_TYPES`, by their numbers. -/
def icmpv6Types : List Nat := [2, 133, 134, 135, 136, 137]

def makeCriticalCommands (v6 : Bool) : List Trait := if v6 then icmpv6Types.map .icmpv6 else []

def getFirewallType : ChildChain → FirewallType
  | .dozable | .powersave => .whitelist
  | .standby => .blacklist

/-- `-m owner --uid-owner uid` with the target of the chain. -/
def uidRule (type : FirewallType) (uid : Nat) : Rule :=
  ⟨.uidOwner false uid uid, if type = .whitelist then .ret else .drop⟩

def returnRules (xs : List Trait) : List Rule := xs.map fun x => ⟨.trait x, .ret⟩

/-- What a whitelist chain lets pass for every uid. -/
def exempt (v6 : Bool) : List Trait := [.esp, .loIn, .loOut, .tcpRst] ++ makeCriticalCommands v6

/-- Whitelist chains have UIDs at the beginning, blacklist chains at the end. -/
def makeUidRules (mMaxUid : Nat) (v6 : Bool) : FirewallType → List Nat → List Rule
  | .whitelist, uids => uids.map (uidRule .whitelist) ++ (⟨.uidOwner false 0 maxSystemUid, .ret⟩ ::
      ⟨.uidOwner true 0 mMaxUid, .ret⟩ :: (returnRules (exempt v6) ++ [⟨.all, .drop⟩]))
  | .blacklist, uids => returnRules [.loIn, .loOut, .tcpRst] ++ uids.map (uidRule .blacklist)

def replaceUidChain (mMaxUid : Nat) (v6 : Bool) (chain : ChildChain) (type : FirewallType)
    (uids : List Nat) : Table → Option Table :=
  commit ((chain, .flush) :: (makeUidRules mMaxUid v6 type uids).map fun r => (chain, .append r))

/-- What the call has to say for a rule to be added. -/
def FirewallType.adds : FirewallType → FirewallRule
  | .whitelist => .allow
  | .blacklist => .deny

def uidEdit (type : FirewallType) (uid : Nat) (rule : FirewallRule) : ChainEdit Rule :=
  if rule = type.adds then
    match type with
    | .whitelist => .insert (uidRule type uid)
    | .blacklist => .append (uidRule type uid)
  else .delete (uidRule type uid)

def setUidRule (chain : ChildChain) (t : Table) (call : Nat × FirewallRule) : Option Table :=
  commit [(chain, uidEdit (getFirewallType chain) call.1 call.2)] t

/-- The rules for `u`: those of the list and those that calls add, without those that calls
delete. -/
def ruleCount (type : FirewallType) (uids : List Nat) (calls : List (Nat × FirewallRule))
    (u : Nat) : Int :=
  uids.count u + calls.count (u, type.adds) - calls.countP fun x => x.1 = u ∧ x.2 ≠ type.adds

variable {mMaxUid uid u : Nat} {v6 : Bool} {type : FirewallType} {rule : FirewallRule} {p : Packet}
  {uids : List Nat} {calls : List (Nat × FirewallRule)} {t t' : Table} {chain : ChildChain}
  {rs : List Rule}

theorem uidRule_injective (type : FirewallType) : Function.Injective (uidRule type) := by
  intro a b h
  simpa [uidRule] using h

theorem mem_makeUidRules : uidRule type uid ∈ makeUidRules mMaxUid v6 type uids ↔ uid ∈ uids := by
  cases type <;> simp [makeUidRules, uidRule, returnRules, maxSystemUid]
  omega

theorem erase_makeUidRules (h : uid ∈ uids) :
    (makeUidRules mMaxUid v6 type uids).erase (uidRule type uid) =
      makeUidRules mMaxUid v6 type (uids.erase uid) := by
  cases type with
  | whitelist =>
    simp only [makeUidRules]
    rw [erase_append_left _ (mem_map_of_mem h), map_erase (uidRule_injective _)]
  | blacklist =>
    simp only [makeUidRules]
    rw [erase_append_right _ (by simp [uidRule, returnRules]), map_erase (uidRule_injective _)]

/-- A call that succeeds leaves the rules for some other uids. -/
theorem apply_uidEdit
    (h : (uidEdit type uid rule).apply (makeUidRules mMaxUid v6 type uids) = some rs) :
    ∃ uids', rs = makeUidRules mMaxUid v6 type uids' ∧
      ∀ calls u, ruleCount type uids' calls u = ruleCount type uids ((uid, rule) :: calls) u := by
  by_cases hadds : rule = type.adds
  · subst hadds
    have hadded : ∃ uids', rs = makeUidRules mMaxUid v6 type uids' ∧ uids'.Perm (uid :: uids) := by
      cases type with
      | whitelist =>
        cases h
        exact ⟨_, rfl, .refl _⟩
      | blacklist =>
        cases h
        exact ⟨uids ++ [uid], by simp [makeUidRules], perm_append_singleton ..⟩
    obtain ⟨uids', hrs, hperm⟩ := hadded
    refine ⟨uids', hrs, fun calls u => ?_⟩
    simp [ruleCount, hperm.count_eq, count_cons]
    omega
  · simp only [uidEdit, if_neg hadds, ChainEdit.apply] at h
    split at h
    · next hr =>
      cases h
      have hmem := mem_makeUidRules.mp hr
      refine ⟨_, erase_makeUidRules hmem, fun calls u => ?_⟩
      simp [ruleCount, (perm_cons_erase hmem).count_eq u, count_cons, countP_cons, hadds]
      omega
    · cases h

theorem setUidRules_listed (h : calls.foldlM (setUidRule chain) t = some t')
    (ht : t chain = makeUidRules mMaxUid v6 (getFirewallType chain) uids) :
    ∃ uids', t' chain = makeUidRules mMaxUid v6 (getFirewallType chain) uids' ∧
      ∀ u, (uids'.count u : Int) = ruleCount (getFirewallType chain) uids calls u := by
  induction calls generalizing t uids with
  | nil =>
    cases h
    exact ⟨uids, ht, fun u => by simp [ruleCount]⟩
  | cons call calls ih =>
    obtain ⟨t₁, hcall, hcalls⟩ := bind_eq_some_iff.mp h
    obtain ⟨rs, hrs, hcommit⟩ := bind_eq_some_iff.mp hcall
    cases hcommit
    rw [ht] at hrs
    obtain ⟨uids₁, rfl, hcount₁⟩ := apply_uidEdit hrs
    obtain ⟨uids', huids', hcount⟩ := ih hcalls (update_self ..)
    exact ⟨uids', huids', fun u => (hcount u).trans (hcount₁ calls u)⟩

theorem commit_appends (rs : List Rule) (t : Table) :
    commit (rs.map fun r => (chain, .append r)) t =
      some (update t chain (t chain ++ rs)) := by
  induction rs generalizing t with
  | nil => simp
  | cons r rs ih => simp [ih]

theorem dropped_uidRules (hu : p.uid = some u) (rs : List Rule) :
    dropped p (uids.map (uidRule type) ++ rs) =
      if u ∈ uids then decide (type = .blacklist) else dropped p rs := by
  induction uids with
  | nil => rfl
  | cons v uids ih =>
    simp only [map_cons, cons_append, dropped, uidRule, Match.holds, hu, ih]
    cases type <;> grind

theorem dropped_returnRules {xs : List Trait} (h : ∀ x ∈ xs, x ∉ p.traits) (rs : List Rule) :
    dropped p (returnRules xs ++ rs) = dropped p rs := by
  induction xs with
  | nil => rfl
  | cons x xs ih => grind [returnRules, dropped, Match.holds]

def Plain (p : Packet) : Prop := ∀ x ∈ exempt true, x ∉ p.traits

theorem dropped_makeUidRules (hu : p.uid = some u) (hsys : maxSystemUid < u) (hmax : u ≤ mMaxUid)
    (hp : Plain p) : dropped p (makeUidRules mMaxUid v6 type uids) = true ↔
      (u ∈ uids ↔ type = .blacklist) := by
  cases type with
  | whitelist =>
    have hrest : dropped p (returnRules (exempt v6) ++ [⟨.all, .drop⟩]) = true :=
      dropped_returnRules (fun x hx => hp x (by grind [exempt, makeCriticalCommands])) _
    rw [makeUidRules, dropped_uidRules hu]
    simp only [dropped, Match.holds, hu, hrest]
    simp [hmax, hsys]
  | blacklist =>
    have huids : dropped p (uids.map (uidRule .blacklist) ++ []) = _ := dropped_uidRules hu []
    rw [append_nil] at huids
    rw [makeUidRules, dropped_returnRules (fun x hx => hp x (by grind [exempt])), huids]
    simp [dropped]

/-- **Child chains implement their policy** over every sequence of calls that succeed. -/
theorem child_chain_policy
    (h : (replaceUidChain mMaxUid v6 chain (getFirewallType chain) uids t).bind
      (calls.foldlM (setUidRule chain)) = some t') (hu : p.uid = some u) :
    (maxSystemUid < u → u ≤ mMaxUid → Plain p → (dropped p (t' chain) = true ↔
      match getFirewallType chain with
      | .whitelist => ruleCount .whitelist uids calls u = 0
      | .blacklist => 1 ≤ ruleCount .blacklist uids calls u)) ∧
    (getFirewallType chain = .whitelist → u ≤ maxSystemUid → dropped p (t' chain) = false) := by
  simp only [replaceUidChain, commit_flush, commit_appends, update_self, nil_append, bind_some] at h
  obtain ⟨uids', hrules, hcount⟩ := setUidRules_listed h (update_self ..)
  rw [hrules]
  refine ⟨fun hsys hmax hp => ?_, fun htype hsys => ?_⟩
  · rw [dropped_makeUidRules hu hsys hmax hp, ← count_pos_iff]
    have hcount := hcount u
    generalize count u uids' = n at hcount ⊢
    cases htype : getFirewallType chain with
    | whitelist =>
      rw [htype] at hcount
      simp only [reduceCtorEq, iff_false]
      omega
    | blacklist =>
      rw [htype] at hcount
      simp only [iff_true]
      omega
  · rw [htype, makeUidRules, dropped_uidRules hu]
    simp [dropped, Match.holds, hu, hsys]

theorem child_chain_policy_dozable : ∃ t',
    (replaceUidChain 99999 true .dozable .whitelist [10001] fun _ => []).bind
      ([(10002, .allow)].foldlM (setUidRule .dozable)) = some t' ∧
    (dropped ⟨some 10003, []⟩ (t' .dozable) = true ↔
      ruleCount .whitelist [10001] [(10002, .allow)] 10003 = 0) :=
  ⟨_, rfl, (@child_chain_policy 99999 10003 true _ [10001] [(10002, .allow)] (fun _ => []) _
    .dozable rfl rfl).1 (by decide) (by decide) (by simp [Plain])⟩

end Netd.Firewall
