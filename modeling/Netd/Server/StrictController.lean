import Netd.Lib.Lts
import Netd.Lib.RuleTable
import Netd.Server.NetdConstants

/-!
# StrictController

A penalty for the cleartext traffic of a user has three parts: a rule that takes the user's packets
to the detection, a rule that takes what is caught to a chain of the user's own, and that chain.
`setUidCleartextPenalty` makes the chain anew for every penalty, but inserts the two rules without
regard to those that are there. With one penalty since the last `ACCEPT` (`Fresh`) that is right.
-/

namespace Netd.Strict

open RuleTable List Function Option

inductive StrictPenalty where
  | invalid
  | accept
  | log
  | reject
  deriving DecidableEq

/-- `LOCAL_OUTPUT`, `LOCAL_CLEAR_DETECT`, `LOCAL_CLEAR_CAUGHT`, `LOCAL_PENALTY_LOG`,
`LOCAL_PENALTY_REJECT`, and `st_clear_caught_<uid>`. -/
inductive Chain where
  | localOutput
  | localClearDetect
  | localClearCaught
  | localPenaltyLog
  | localPenaltyReject
  | perUid (uid : Nat)
  deriving DecidableEq

inductive Rule where
  /-- `-m owner --uid-owner <uid> -j st_clear_detect` -/
  | detect (uid : Nat)
  /-- `-m owner --uid-owner <uid> -j st_clear_caught_<uid>` -/
  | caught (uid : Nat)
  /-- `-j st_penalty_log` -/
  | penaltyLog
  /-- `-j st_penalty_reject` -/
  | penaltyReject
  /-- A rule of `setupIptablesHooks`. Some of them jump to `st_clear_caught`. -/
  | fixed (toCaught : Bool)
  deriving DecidableEq

def Rule.target : Rule → Option Chain
  | .detect _ => some .localClearDetect
  | .caught uid => some (.perUid uid)
  | .penaltyLog => some .localPenaltyLog
  | .penaltyReject => some .localPenaltyReject
  | .fixed toCaught => if toCaught then some .localClearCaught else none

/-- The filter tables of both families. -/
structure State where
  v4 : Table Chain Rule
  v6 : Table Chain Rule

/-- A table after a section, which is left as it is if the section fails. -/
def restored (lines : List (Line Chain Rule)) (t : Table Chain Rule) : Table Chain Rule :=
  (commit Rule.target lines t).getD t

def State.execIptablesRestore (lines : List (Line Chain Rule)) (s : State) : State × Int :=
  (⟨restored lines s.v4, restored lines s.v6⟩,
    if (commit Rule.target lines s.v4).isSome && (commit Rule.target lines s.v6).isSome then 0
    else -1)

/-- The commands of `setUidCleartextPenalty`. -/
def commands (uid : Nat) (penalty : StrictPenalty) : List (Line Chain Rule) :=
  if penalty = .accept then
    [.delete .localOutput (.detect uid), .delete .localClearCaught (.caught uid),
      .flush (.perUid uid), .remove (.perUid uid)]
  else
    [.declare (.perUid uid), .insert .localOutput 0 (.detect uid),
      .insert .localClearCaught 0 (.caught uid)] ++
      if penalty = .log then [.append (.perUid uid) .penaltyLog]
      else if penalty = .reject then [.append (.perUid uid) .penaltyReject]
      else []

def State.setUidCleartextPenalty (uid : Nat) (penalty : StrictPenalty) (s : State) : State × Int :=
  let r := s.execIptablesRestore (commands uid penalty)
  (r.1, if r.2 = 0 then 0 else -Errno.eremoteio)

/-- A call of `setUidCleartextPenalty`. -/
structure Call where
  uid : Nat
  penalty : StrictPenalty

def step (c : Call) (s : State) : Option State := some (s.setUidCleartextPenalty c.uid c.penalty).1

/-! ## The rules of a user -/

/-- The user that a rule names. -/
def Rule.uid : Rule → Option Nat
  | .detect uid | .caught uid => some uid
  | .penaltyLog | .penaltyReject | .fixed _ => none

/-- The user that a rule is part of a penalty of. -/
def owner : Entry Chain Rule → Option Nat
  | ⟨.perUid uid, _⟩ => some uid
  | ⟨_, rule⟩ => rule.uid

def penaltyRules (uid : Nat) : StrictPenalty → List (Entry Chain Rule)
  | .accept => []
  | .invalid => [⟨.localClearCaught, .caught uid⟩, ⟨.localOutput, .detect uid⟩]
  | .log => [⟨.perUid uid, .penaltyLog⟩, ⟨.localClearCaught, .caught uid⟩,
      ⟨.localOutput, .detect uid⟩]
  | .reject => [⟨.perUid uid, .penaltyReject⟩, ⟨.localClearCaught, .caught uid⟩,
      ⟨.localOutput, .detect uid⟩]

variable {uid uid' : Nat} {v v' : View Chain Rule} {penalty : StrictPenalty} {t : Table Chain Rule}
  {x : Entry Chain Rule}

theorem owner_of_mem_penaltyRules (hx : x ∈ penaltyRules uid penalty) : owner x = some uid := by
  cases penalty <;> simp only [penaltyRules, mem_cons, not_mem_nil, or_false] at hx
  · rcases hx with rfl | rfl <;> rfl
  · rcases hx with rfl | rfl | rfl <;> rfl
  · rcases hx with rfl | rfl | rfl <;> rfl

open Netd.Strict.Rule

theorem uid_of_mem_penaltyRules (hx : x ∈ penaltyRules uid penalty)
    (hrule : x.rule.uid = some uid') : uid' = uid := by
  cases penalty <;> simp only [penaltyRules, mem_cons, not_mem_nil, or_false] at hx
  · rcases hx with rfl | rfl <;> simp_all [Rule.uid]
  · rcases hx with rfl | rfl | rfl <;> simp_all [Rule.uid]
  · rcases hx with rfl | rfl | rfl <;> simp_all [Rule.uid]

theorem uid_of_target {rule : Rule} (h : rule.target = some (.perUid uid)) :
    rule.uid = some uid := by
  cases rule with
  | caught uid' =>
    cases h
    rfl
  | fixed toCaught => cases toCaught <;> cases h
  | detect uid' | penaltyLog | penaltyReject => cases h

/-- A penalty for a user without one, on the rules of that user. -/
theorem commit_penalty (hp : penalty ≠ .accept) (chains : List Chain)
    (habsent : .perUid uid ∉ chains) :
    View.commit target (commands uid penalty) ⟨chains, penaltyRules uid .accept⟩ =
      some ⟨.perUid uid :: chains, penaltyRules uid penalty⟩ := by
  cases penalty with
  | accept => exact absurd rfl hp
  | invalid | log | reject =>
    simp [commands, habsent]
    rfl

/-- One penalty can be lifted. -/
theorem commit_accept (hp : penalty ≠ .accept) (chains : List Chain)
    (hchain : .perUid uid ∈ chains) :
    View.commit target (commands uid .accept) ⟨chains, penaltyRules uid penalty⟩ =
      some ⟨chains.filter fun d => d ≠ .perUid uid, penaltyRules uid .accept⟩ := by
  cases penalty with
  | accept => exact absurd rfl hp
  | invalid | log | reject => simp [commands, penaltyRules, View.commit, View.apply, hchain]

/-! ## One family -/

def latest (h : List Call) (uid : Nat) : StrictPenalty :=
  match h.find? fun c => c.uid = uid with
  | some c => c.penalty
  | none => .accept

theorem latest_cons (c : Call) (h : List Call) (uid : Nat) :
    latest (c :: h) uid = if c.uid = uid then c.penalty else latest h uid := by
  by_cases heq : c.uid = uid
  · simp [latest, heq]
  · simp [latest, heq]

/-- The rules of the hooks, and those of the latest penalty of each user. -/
def parts (base : Multiset (Entry Chain Rule)) (h : List Call) :
    Option Nat → Multiset (Entry Chain Rule)
  | none => base
  | some uid => penaltyRules uid (latest h uid)

theorem parts_cons (base : Multiset (Entry Chain Rule)) (h : List Call) (c : Call) :
    parts base (c :: h) =
      update (parts base h) (some c.uid) (penaltyRules c.uid c.penalty) := by
  funext o
  cases o with
  | none => rfl
  | some uid =>
    by_cases heq : c.uid = uid
    · subst heq
      simp [parts, latest_cons]
    · have hne : some uid ≠ some c.uid := fun h => heq (some.inj h).symm
      simp [parts, latest_cons, heq, update_of_ne hne]

/-- Every user has the rules of its latest penalty, and a chain if that is not `ACCEPT`. -/
structure Fits (base : Multiset (Entry Chain Rule)) (h : List Call) (v : View Chain Rule) :
    Prop where
  rules : Owned owner (parts base h) v.rules
  chain : ∀ uid, .perUid uid ∈ v.chains ↔ latest h uid ≠ .accept

variable {base : Multiset (Entry Chain Rule)} {h : List Call} {c : Call}

theorem chain_ne_of_owner (hx : owner x ≠ some uid) : x.chain ≠ .perUid uid := by
  intro hchain
  cases x
  cases hchain
  exact hx rfl

section

variable (hfits : Fits base h v)
include hfits

theorem Fits.owner_of_uid (hmem : x ∈ v.rules)
    (hrule : x.rule.uid = some uid) : owner x = some uid := by
  have hpart := hfits.rules.mem hmem
  obtain ⟨chain, rule⟩ := x
  cases chain with
  | perUid uid' => rw [uid_of_mem_penaltyRules hpart hrule, owner]
  | localOutput | localClearDetect | localClearCaught | localPenaltyLog | localPenaltyReject =>
    exact hrule

theorem Fits.spares : ∀ l ∈ commands uid penalty,
      l.Spares target (v.rules.filter fun x => owner x ≠ some uid) := by
  have hchain : ∀ x ∈ v.rules.filter (fun x => owner x ≠ some uid), x.chain ≠ .perUid uid :=
    fun x hx => chain_ne_of_owner (Multiset.mem_filter.mp hx).2
  have htarget : ∀ x ∈ v.rules.filter (fun x => owner x ≠ some uid),
      x.rule.target ≠ some (.perUid uid) :=
    fun x hx htarget => (Multiset.mem_filter.mp hx).2
      (hfits.owner_of_uid (Multiset.mem_filter.mp hx).1 (uid_of_target htarget))
  cases penalty with
  | accept =>
    simp only [commands, if_true, forall_mem_cons]
    exact ⟨trivial, trivial, hchain, fun x hx => ⟨hchain x hx, htarget x hx⟩, by simp⟩
  | invalid | log | reject => simpa [commands, Line.Spares] using hchain

/-- What the commands make of the rules of the user decides what they make of all. -/
theorem Fits.commit {chains : List Chain}
    (hcommit : View.commit target (commands c.uid c.penalty)
      ⟨v.chains, penaltyRules c.uid (latest h c.uid)⟩ = some ⟨chains, penaltyRules c.uid c.penalty⟩)
    (hchain : ∀ uid, .perUid uid ∈ chains ↔ latest (c :: h) uid ≠ .accept) :
    ∃ w, View.commit target (commands c.uid c.penalty) v = some w ∧ Fits base (c :: h) w := by
  obtain ⟨w, hw, hchains, howned⟩ := hfits.rules.commit (some c.uid) hfits.spares hcommit
    fun x hx => owner_of_mem_penaltyRules hx
  rw [← parts_cons] at howned
  exact ⟨w, hw, howned, hchains ▸ hchain⟩

theorem Fits.set (hp : c.penalty ≠ .accept) (hlast : latest h c.uid = .accept) :
    ∃ w, View.commit target (commands c.uid c.penalty) v = some w ∧ Fits base (c :: h) w := by
  have habsent : .perUid c.uid ∉ v.chains := fun hmem => (hfits.chain c.uid).mp hmem hlast
  have hcommit := commit_penalty hp v.chains habsent
  rw [← hlast] at hcommit
  refine hfits.commit hcommit fun uid => ?_
  rw [latest_cons, mem_cons, hfits.chain uid]
  by_cases heq : c.uid = uid
  · simp [heq, hp]
  · simp [heq, Ne.symm heq]

theorem Fits.accept (hp : c.penalty = .accept) (hlast : latest h c.uid ≠ .accept) :
    ∃ w, View.commit target (commands c.uid c.penalty) v = some w ∧ Fits base (c :: h) w := by
  have hcommit := commit_accept hlast v.chains ((hfits.chain c.uid).mpr hlast)
  rw [← hp] at hcommit
  refine hfits.commit hcommit fun uid => ?_
  rw [latest_cons, mem_filter, hfits.chain uid]
  by_cases heq : c.uid = uid
  · simp [heq, hp]
  · simp [heq, Ne.symm heq]

theorem Fits.accept_none (hlast : latest h uid = .accept) :
    View.commit target (commands uid .accept) v = none := by
  have habsent : (⟨.localOutput, .detect uid⟩ : Entry Chain Rule) ∉ v.rules := by
    intro hmem
    have hpart := hfits.rules.mem hmem
    change _ ∈ (penaltyRules uid (latest h uid) : Multiset (Entry Chain Rule)) at hpart
    rw [hlast] at hpart
    exact absurd hpart (Multiset.notMem_zero _)
  simp [commands, View.commit, View.apply, habsent]

theorem Fits.same (hp : c.penalty = .accept)
    (hlast : latest h c.uid = .accept) : Fits base (c :: h) v := by
  have hsame : latest (c :: h) = latest h := by
    funext uid
    rw [latest_cons]
    split
    · next heq => rw [hp, ← heq, hlast]
    · rfl
  have hparts : parts base (c :: h) = parts base h := by
    rw [parts_cons, hp, ← hlast]
    exact update_eq_self _ _
  exact ⟨hparts ▸ hfits.rules, hsame ▸ hfits.chain⟩

end

theorem restored_of_commit {ls : List (Line Chain Rule)}
    (h : View.commit target ls t.view = some v) :
    (RuleTable.commit target ls t).isSome = true ∧ (restored ls t).view = v := by
  obtain ⟨t', ht', hview⟩ := exists_commit h
  simp [restored, ht', hview]

theorem Fits.restored (hfits : Fits base h t.view)
    (hfresh : c.penalty = .accept ∨ latest h c.uid = .accept) :
    Fits base (c :: h) (restored (commands c.uid c.penalty) t).view := by
  by_cases hp : c.penalty = .accept
  · by_cases hlast : latest h c.uid = .accept
    · have hnone := hfits.accept_none hlast
      rw [← hp, ← commit_view, map_eq_none_iff] at hnone
      rw [Strict.restored, hnone, getD_none]
      exact hfits.same hp hlast
    · obtain ⟨w, hcommit, hw⟩ := hfits.accept hp hlast
      rwa [(restored_of_commit hcommit).2]
  · obtain ⟨w, hcommit, hw⟩ := hfits.set hp (hfresh.resolve_left hp)
    rwa [(restored_of_commit hcommit).2]

/-! ## Runs -/

/-- A penalty is only set for a user without one. -/
def Fresh (s : State) (c : Call) : Prop := c.penalty = .accept ∨ .perUid c.uid ∉ s.v4.chains

instance decidableFresh (s : State) (c : Call) : Decidable (Fresh s c) :=
  inferInstanceAs (Decidable (_ ∨ _))

/-- Both families are as the calls say. -/
structure Inv (base4 base6 : Multiset (Entry Chain Rule)) (h : List Call) (s : State) : Prop where
  v4 : Fits base4 h s.v4.view
  v6 : Fits base6 h s.v6.view

variable {base4 base6 : Multiset (Entry Chain Rule)}

theorem inv_step {s s' : State} (hinv : Inv base4 base6 h s) (hfresh : Fresh s c)
    (hs : step c s = some s') : Inv base4 base6 (c :: h) s' := by
  cases hs
  have hp : c.penalty = .accept ∨ latest h c.uid = .accept := by
    refine hfresh.imp_right fun habsent => ?_
    exact not_not.mp fun hlast => habsent ((hinv.v4.chain c.uid).mpr hlast)
  exact ⟨hinv.v4.restored hp, hinv.v6.restored hp⟩

/-- A table as `setupIptablesHooks` leaves it: no user has a penalty. -/
structure Base (t : Table Chain Rule) : Prop where
  chain : ∀ uid, .perUid uid ∉ t.chains
  rules : ∀ x ∈ t.rules, (∃ toCaught, x.rule = .fixed toCaught) ∧ ∀ uid, x.chain ≠ .perUid uid

theorem Base.owner_eq (hbase : Base t) (hx : x ∈ t.rules) : owner x = none := by
  obtain ⟨⟨toCaught, hrule⟩, hchain⟩ := hbase.rules x hx
  obtain ⟨chain, rule⟩ := x
  cases hrule
  cases chain with
  | perUid uid => exact absurd rfl (hchain uid)
  | localOutput | localClearDetect | localClearCaught | localPenaltyLog | localPenaltyReject => rfl

theorem Base.fits (hbase : Base t) : Fits t.view.rules [] t.view := by
  refine ⟨fun o => ?_, fun uid => ?_⟩
  · cases o with
    | none => exact Multiset.filter_eq_self.mpr fun x hx => hbase.owner_eq hx
    | some uid =>
      refine Multiset.filter_eq_nil.mpr fun x hx hown => ?_
      rw [hbase.owner_eq hx] at hown
      cases hown
  · exact ⟨fun hmem => absurd hmem (hbase.chain uid), fun hne => absurd rfl hne⟩

/-- Nothing of a penalty of the user is left in the table. -/
structure Lifted (uid : Nat) (t : Table Chain Rule) : Prop where
  chain : .perUid uid ∉ t.chains
  rules : ∀ x ∈ t.rules, x.chain ≠ .perUid uid ∧ x.rule ≠ .detect uid ∧ x.rule ≠ .caught uid

theorem Fits.lifted (hfits : Fits base h t.view) (hlast : latest h uid = .accept) :
    Lifted uid t := by
  refine ⟨fun hmem => (hfits.chain uid).mp hmem hlast, ?_⟩
  intro x hx
  have hne : owner x ≠ some uid := by
    intro hown
    have hpart := hfits.rules.mem_iff.mpr ⟨hx, hown⟩
    change _ ∈ (penaltyRules uid (latest h uid) : Multiset (Entry Chain Rule)) at hpart
    rw [hlast] at hpart
    exact absurd hpart (Multiset.notMem_zero _)
  refine ⟨chain_ne_of_owner hne, ?_, ?_⟩
  · intro hrule
    exact hne (hfits.owner_of_uid hx (by rw [hrule, Rule.uid]))
  · intro hrule
    exact hne (hfits.owner_of_uid hx (by rw [hrule, Rule.uid]))

theorem Fits.lift (hfits : Fits base h t.view) (hlast : latest h uid ≠ .accept) :
    (RuleTable.commit target (commands uid .accept) t).isSome = true ∧
      Lifted uid (Strict.restored (commands uid .accept) t) := by
  obtain ⟨w, hcommit, hw⟩ := hfits.accept (c := ⟨uid, .accept⟩) rfl hlast
  obtain ⟨hsome, hview⟩ := restored_of_commit hcommit
  rw [← hview] at hw
  exact ⟨hsome, hw.lifted (by simp [latest_cons])⟩

/-- **A cleartext penalty can be lifted** when every penalty is set for a user that has none. -/
theorem penalty_lifted {v4 v6 : Table Chain Rule} (h4 : Base v4) (h6 : Base v6) {h : List Call}
    {s : State} (hrun : Lts.Run step Fresh ⟨v4, v6⟩ h s) {uid : Nat}
    (hlatest : latest h uid ≠ .accept) :
    (s.setUidCleartextPenalty uid .accept).2 = 0 ∧
      Lifted uid (s.setUidCleartextPenalty uid .accept).1.v4 ∧
      Lifted uid (s.setUidCleartextPenalty uid .accept).1.v6 := by
  have hinv := hrun.invariant (I := fun h s => Inv v4.view.rules v6.view.rules h s)
    ⟨h4.fits, h6.fits⟩ inv_step
  obtain ⟨hsome4, hlifted4⟩ := hinv.v4.lift hlatest
  obtain ⟨hsome6, hlifted6⟩ := hinv.v6.lift hlatest
  refine ⟨?_, hlifted4, hlifted6⟩
  simp [State.setUidCleartextPenalty, State.execIptablesRestore, hsome4, hsome6]

/-- Some of the rules of `setupIptablesHooks`. -/
def sampleTable : Table Chain Rule :=
  ⟨[.localOutput, .localClearDetect, .localClearCaught, .localPenaltyLog, .localPenaltyReject],
    [⟨.localPenaltyLog, .fixed false⟩, ⟨.localClearDetect, .fixed true⟩]⟩

theorem base_sampleTable : Base sampleTable := by
  refine ⟨?_, ?_⟩
  · simp [sampleTable]
  · simp [sampleTable]

theorem penalty_lifted_sample :
    ∃ h s, Lts.Run step Fresh ⟨sampleTable, sampleTable⟩ h s ∧ latest h 10007 ≠ .accept ∧
      (s.setUidCleartextPenalty 10007 .accept).2 = 0 ∧
      Lifted 10007 (s.setUidCleartextPenalty 10007 .accept).1.v4 ∧
      Lifted 10007 (s.setUidCleartextPenalty 10007 .accept).1.v6 :=
  ⟨_, Lts.run_of_mem_and [⟨10007, .log⟩, ⟨10008, .reject⟩, ⟨10007, .accept⟩, ⟨10007, .reject⟩]
    (by decide +kernel) fun hrun =>
    penalty_lifted base_sampleTable base_sampleTable hrun (by decide)⟩

/-- Two penalties succeed in a row. `ACCEPT` then fails, and the chain and rules of the user stay in
both families. -/
theorem second_penalty_stays : let s₀ : State := ⟨sampleTable, sampleTable⟩
    let r₁ := s₀.setUidCleartextPenalty 10007 .log
    let r₂ := r₁.1.setUidCleartextPenalty 10007 .reject
    let r₃ := r₂.1.setUidCleartextPenalty 10007 .accept
    r₁.2 = 0 ∧ r₂.2 = 0 ∧ r₃.2 = -Errno.eremoteio ∧
      ∀ t ∈ [r₃.1.v4, r₃.1.v6], .perUid 10007 ∈ t.chains ∧
        ⟨.localOutput, .detect 10007⟩ ∈ t.rules ∧ ⟨.localClearCaught, .caught 10007⟩ ∈ t.rules ∧
        ⟨.perUid 10007, .penaltyReject⟩ ∈ t.rules := by
  decide +kernel

end Netd.Strict
