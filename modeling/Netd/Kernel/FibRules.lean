import Netd.Lib.PrioList
import Netd.Server.UidRanges

/-!
# Policy routing rules

The kernel keeps, for each address family, a list of rules ordered by priority, and compares a
packet with them in order. A matching rule sends the lookup to a routing table, or stops it.

Rules are added and deleted by netlink requests. An absent attribute leaves the field of a new rule
unset, and in a deletion it selects any value. A deletion removes the first rule selected and fails
with `ENOENT` when there is none.
-/

namespace Netd

open List

/-! ## Error numbers -/

namespace Errno

def eperm : Int := 1
def enoent : Int := 2
def esrch : Int := 3
def ebadf : Int := 9
def eacces : Int := 13
def ebusy : Int := 16
def eexist : Int := 17
def enodev : Int := 19
def einval : Int := 22
def erange : Int := 34
def enametoolong : Int := 36
def enonet : Int := 64
def eproto : Int := 71
def ebadmsg : Int := 74
def enotuniq : Int := 76
def eusers : Int := 87
def eafnosupport : Int := 97
def eremoteio : Int := 121

end Errno

/-- The size of an interface name, with its end. -/
def ifnamsiz : Nat := 16

/-! ## Rules, requests and packets -/

/-- The address families rules are kept for. -/
inductive Family where
  | inet
  | inet6
  deriving DecidableEq

/-- `AF_FAMILIES`, in the order in which requests are sent. -/
def afFamilies : List Family := [.inet, .inet6]

/-- What a rule does with a lookup: `FR_ACT_TO_TBL`, `FR_ACT_PROHIBIT`,
`FR_ACT_UNREACHABLE`. -/
inductive RuleAction where
  | toTbl
  | prohibit
  | unreachable
  deriving DecidableEq

def rtTableUnspec : Nat := 0

/-- A policy rule as the kernel keeps it. -/
structure Rule where
  priority : Nat
  action : RuleAction
  table : Nat
  fwmark : BitVec 32
  mask : BitVec 32
  iif : Option String
  oif : Option String
  uidRange : Option UidRangeParcel
  deriving DecidableEq

/-- The attributes of a netlink rule request. -/
structure RuleRequest where
  priority : Nat
  action : RuleAction
  table : Option Nat
  /-- `FRA_FWMARK` and `FRA_FWMASK`, always sent together. -/
  mark : Option (BitVec 32 × BitVec 32)
  iif : Option String
  oif : Option String
  uidRange : Option UidRangeParcel

/-- The attribute is absent or has the value of the field. -/
def attrAgrees {α : Type} [DecidableEq α] : Option α → α → Bool
  | none, _ => true
  | some a, b => a = b

/-- The attribute is absent or the field is set to its value. -/
def fieldAgrees {α : Type} [DecidableEq α] : Option α → Option α → Bool
  | none, _ => true
  | some a, b => b = some a

/-- A deletion takes the first rule that agrees with all the attributes it gives. -/
def RuleRequest.selects (q : RuleRequest) (r : Rule) : Bool :=
  q.priority = r.priority && q.action = r.action && attrAgrees q.table r.table &&
    attrAgrees q.mark (r.fwmark, r.mask) && fieldAgrees q.iif r.iif &&
    fieldAgrees q.oif r.oif && fieldAgrees q.uidRange r.uidRange

/-- The rule a creation request describes. -/
def RuleRequest.toRule (q : RuleRequest) : Rule where
  priority := q.priority
  action := q.action
  table := q.table.getD rtTableUnspec
  fwmark := (q.mark.getD (0, 0)).1
  mask := (q.mark.getD (0, 0)).2
  iif := q.iif
  oif := q.oif
  uidRange := q.uidRange

/-- `uid_range_set` and `uid_lte`: both bounds are user ids and in order. -/
def UidRangeParcel.Valid (r : UidRangeParcel) : Prop :=
  r.start ≠ invalidUid ∧ r.stop ≠ invalidUid ∧ r.start ≤ r.stop

instance (r : UidRangeParcel) : Decidable r.Valid := inferInstanceAs (Decidable (_ ∧ _))

/-- The rules in the order of their priorities, the older ones of a priority first. -/
abbrev FibRules := PrioList Rule Rule.priority

/-- `RTM_NEWRULE`. Equal rules may exist more than once. -/
def FibRules.newRule (l : FibRules) (q : RuleRequest) : Int × FibRules :=
  match q.uidRange with
  | none => (0, l.insert q.toRule)
  | some r => if r.Valid then (0, l.insert q.toRule) else (-Errno.einval, l)

/-- `RTM_DELRULE` -/
def FibRules.delRule (l : FibRules) (q : RuleRequest) : Int × FibRules :=
  if l.toList.any q.selects then (0, l.eraseFirst q.selects) else (-Errno.enoent, l)

variable {r : Rule} {q : RuleRequest} {l : FibRules}

theorem FibRules.newRule_ok (h : (l.newRule q).1 = 0) : (l.newRule q).2 = l.insert q.toRule := by
  rw [FibRules.newRule] at h ⊢
  split
  · rfl
  rename_i u hu
  rw [hu] at h
  dsimp only at h
  split
  · rfl
  · next hbad => rw [if_neg hbad] at h; cases h

theorem FibRules.newRule_failed (h : (l.newRule q).1 ≠ 0) : (l.newRule q).2 = l := by
  rw [FibRules.newRule] at h ⊢
  split
  · rename_i hu
    rw [hu] at h
    exact absurd rfl h
  rename_i u hu
  rw [hu] at h
  dsimp only at h
  split
  · rename_i hval
    rw [if_pos hval] at h
    exact absurd rfl h
  · rfl

theorem FibRules.delRule_ok (h : (l.delRule q).1 = 0) :
    l.toList.any q.selects = true ∧ (l.delRule q).2 = l.eraseFirst q.selects := by
  rw [FibRules.delRule] at h ⊢
  split
  · next hany => exact ⟨hany, rfl⟩
  · next hnone => rw [if_neg hnone] at h; cases h

/-- What a lookup is made for. -/
structure Packet where
  mark : Fwmark
  uid : Uid
  iif : Option String
  oif : Option String

/-- A packet meets every selector of the rule. -/
def Rule.matchesPacket (r : Rule) (p : Packet) : Bool :=
  fieldAgrees r.iif p.iif && fieldAgrees r.oif p.oif &&
    (r.fwmark ^^^ p.mark.intValue) &&& r.mask = 0 &&
    (r.uidRange.all fun u => u.Contains p.uid)

/-- The tables of the matching rules up to the first that stops the lookup. A real lookup consults a
prefix of them, since a table with a route ends it. -/
def consulted (p : Packet) : List Rule → List Nat
  | [] => []
  | r :: rs =>
    if r.matchesPacket p then
      match r.action with
      | .toTbl => r.table :: consulted p rs
      | .prohibit => []
      | .unreachable => []
    else consulted p rs

/-! ## Reading requests and matches -/

theorem attrAgrees_iff {α : Type} [DecidableEq α] {a : Option α} {b : α} :
    attrAgrees a b = true ↔ ∀ x, a = some x → x = b := by
  cases a <;> simp [attrAgrees]

theorem fieldAgrees_iff {α : Type} [DecidableEq α] {a b : Option α} :
    fieldAgrees a b = true ↔ ∀ x, a = some x → b = some x := by
  cases a <;> simp [fieldAgrees]

theorem RuleRequest.selects_iff :
    q.selects r = true ↔ q.priority = r.priority ∧ q.action = r.action ∧
      (∀ t, q.table = some t → t = r.table) ∧ (∀ m, q.mark = some m → m = (r.fwmark, r.mask)) ∧
      (∀ i, q.iif = some i → r.iif = some i) ∧ (∀ i, q.oif = some i → r.oif = some i) ∧
      (∀ u, q.uidRange = some u → r.uidRange = some u) := by
  unfold RuleRequest.selects
  simp only [Bool.and_eq_true, decide_eq_true_eq, attrAgrees_iff, fieldAgrees_iff]
  tauto

variable {p : Packet}

theorem Rule.matchesPacket_iff : r.matchesPacket p = true ↔ (∀ i, r.iif = some i → p.iif = some i) ∧
      (∀ i, r.oif = some i → p.oif = some i) ∧
      (r.fwmark ^^^ p.mark.intValue) &&& r.mask = 0 ∧
      (∀ u, r.uidRange = some u → u.Contains p.uid) := by
  unfold Rule.matchesPacket
  simp only [Bool.and_eq_true, fieldAgrees_iff, decide_eq_true_eq, Option.all_eq_true]
  tauto

/-- Nothing behind a matching rule that stops the lookup is consulted. -/
theorem mem_consulted_of_stop {t : Nat} {stop : Rule} (hstop : stop.matchesPacket p = true)
    (hact : stop.action ≠ .toTbl) :
    ∀ {l : List Rule}, l.Pairwise (fun a b => a.priority ≤ b.priority) → stop ∈ l →
      t ∈ consulted p l →
      ∃ r ∈ l, r.matchesPacket p = true ∧ r.action = .toTbl ∧ r.table = t ∧
        r.priority ≤ stop.priority
  | [], _, hmem, _ => by simp at hmem
  | r :: rs, hs, hmem, h => by
    obtain ⟨hr, hrs⟩ := pairwise_cons.mp hs
    unfold consulted at h
    split at h
    · rename_i hm
      split at h
      · rename_i ha
        have hmem' : stop ∈ rs := by
          cases mem_cons.mp hmem with
          | inl he => exact absurd (he ▸ ha) hact
          | inr hm' => exact hm'
        cases mem_cons.mp h with
        | inl ht => exact ⟨r, mem_cons_self .., hm, ha, ht.symm, hr stop hmem'⟩
        | inr ht =>
          obtain ⟨r', hr', hrest⟩ := mem_consulted_of_stop hstop hact hrs hmem' ht
          exact ⟨r', mem_cons_of_mem _ hr', hrest⟩
      · simp at h
      · simp at h
    · rename_i hm
      have hmem' : stop ∈ rs := by
        cases mem_cons.mp hmem with
        | inl he => exact absurd (he ▸ hstop) hm
        | inr hm' => exact hm'
      obtain ⟨r', hr', hrest⟩ := mem_consulted_of_stop hstop hact hrs hmem' h
      exact ⟨r', mem_cons_of_mem _ hr', hrest⟩

/-! ## The request for a rule -/

/-- The request to create or delete a rule: with the table unless it is `RT_TABLE_UNSPEC`, and the
mark unless the mask is zero. -/
def Rule.request (r : Rule) : RuleRequest where
  priority := r.priority
  action := r.action
  table := if r.table ≠ rtTableUnspec then some r.table else none
  mark := if r.mask ≠ 0 then some (r.fwmark, r.mask) else none
  iif := r.iif
  oif := r.oif
  uidRange := r.uidRange

def Rule.selects (d r : Rule) : Bool := d.request.selects r

theorem Rule.selects_iff {d : Rule} :
    d.selects r = true ↔ r.priority = d.priority ∧ r.action = d.action ∧
      (d.table ≠ rtTableUnspec → r.table = d.table) ∧
      (d.mask ≠ 0 → r.fwmark = d.fwmark ∧ r.mask = d.mask) ∧
      (∀ i, d.iif = some i → r.iif = some i) ∧ (∀ i, d.oif = some i → r.oif = some i) ∧
      (∀ u, d.uidRange = some u → r.uidRange = some u) := by
  unfold Rule.selects
  rw [RuleRequest.selects_iff]
  unfold Rule.request
  simp only [ite_eq_iff, Option.some.injEq, reduceCtorEq, and_false, or_false, and_imp]
  constructor
  · rintro ⟨h1, h2, h3, h4, h5⟩
    exact ⟨h1.symm, h2.symm, fun h => (h3 _ h rfl).symm, fun h => by
      simp_all, h5⟩
  · rintro ⟨h1, h2, h3, h4, h5⟩
    refine ⟨h1.symm, h2.symm, fun t h ht => by rw [← ht, h3 h], fun m h hm => ?_, h5⟩
    rw [← hm, (h4 h).1, (h4 h).2]

theorem Rule.selects_self (r : Rule) : r.selects r = true := by
  rw [Rule.selects_iff]
  simp

theorem Rule.selects_priority {d : Rule} (h : d.selects r = true) : r.priority = d.priority :=
  (Rule.selects_iff.mp h).1

/-- A rule without a mask has no mark, as netd's rules do. -/
def Rule.Masked (r : Rule) : Prop := r.mask = 0 → r.fwmark = 0

theorem Rule.toRule_request (h : r.Masked) : r.request.toRule = r := by
  have htable : (if r.table ≠ rtTableUnspec then some r.table else none).getD rtTableUnspec
      = r.table := by
    split
    · rfl
    · next ht => exact (not_not.mp ht).symm
  have hmark : (if r.mask ≠ 0 then some (r.fwmark, r.mask) else none).getD (0, 0)
      = (r.fwmark, r.mask) := by
    split
    · rfl
    rename_i hm
    have hm' := not_not.mp hm
    rw [hm', h hm']
    rfl
  unfold RuleRequest.toRule Rule.request
  rw [htable, hmark]

end Netd
