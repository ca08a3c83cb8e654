import Netd.Lib.Lts
import Netd.Server.NetdConstants

/-!
# TetherController: forwarding

`enableNat` lets packets pass between a downstream interface and an upstream interface. It adds
three rules for the pair to the chain for forwarded packets, before a rule that drops what is left,
and rules that go by the downstream interface alone to the raw table. `mFwdIfaces` has the pairs,
and whether they are active. `disableNat` deletes the rules, the raw table first. When no pair is
active the chains are reset.
-/

namespace Netd.Tether

open RuleChains List

/-! ## Rules -/

/-- The chains of the controller: `LOCAL_FORWARD`, `LOCAL_TETHER_COUNTERS_CHAIN`,
`LOCAL_NAT_POSTROUTING`, `LOCAL_RAW_PREROUTING` and `LOCAL_MANGLE_FORWARD`. -/
inductive Chain where
  | localForward
  | localTetherCounters
  | localNatPostrouting
  | localRawPrerouting
  | localMangleForward
  deriving DecidableEq

/-- The states of a connection that rules ask for. -/
inductive ConnState where
  | new
  | established
  | related
  | invalid
  deriving DecidableEq

/-- The connection tracking helpers. -/
inductive Helper where
  | ftp
  | pptp
  deriving DecidableEq

/-- What a rule does with a packet. -/
inductive Target where
  | drop
  /-- `-j RETURN` -/
  | ret
  /-- `-g tetherctrl_counters` -/
  | gotoCounters
  /-- `-j bw_global_alert` -/
  | jumpGlobalAlert
  | masquerade
  /-- `-j CT --helper` -/
  | ct (helper : Helper)
  /-- `-j TCPMSS --clamp-mss-to-pmtu` -/
  | tcpmss
  deriving DecidableEq

/-- What a rule asks of a packet besides interfaces and state. -/
inductive Match where
  /-- `-p tcp --dport` -/
  | tcpDport (port : Nat)
  /-- `-p tcp --tcp-flags SYN SYN` -/
  | tcpSyn
  /-- `-m rpfilter --invert ! -s fe80::/64` -/
  | rpfilterInvert
  deriving DecidableEq

structure Rule where
  /-- `-i` -/
  inIface : Option String := none
  /-- `-o` -/
  outIface : Option String := none
  /-- `-m state --state`, and none if this is empty -/
  state : List ConnState := []
  matching : Option Match := none
  target : Target
  deriving DecidableEq

structure Packet where
  inIface : String
  outIface : String
  state : ConnState
  fits : Match → Bool

/-- The packet meets every condition of the rule. -/
def Rule.isMatch (r : Rule) (p : Packet) : Bool :=
  r.inIface.all (· = p.inIface) && r.outIface.all (· = p.outIface) &&
    (r.state.isEmpty || r.state.contains p.state) && r.matching.all p.fits

/-- The rule is for all packets. -/
def Rule.isUnconditional (r : Rule) : Bool :=
  r.inIface.isNone && r.outIface.isNone && r.state.isEmpty && r.matching.isNone

/-- What becomes of a packet. -/
inductive Verdict where
  | dropped
  /-- The packet goes to the counters, and from there back to the chain that called this one. -/
  | counters
  /-- The packet leaves the chain in another way. -/
  | escaped

/-- What becomes of a packet in a chain. It comes back from `bw_global_alert`, which only counts. -/
def traverse (p : Packet) : List Rule → Verdict
  | [] => .escaped
  | r :: rs =>
    if r.isMatch p then
      match r.target with
      | .drop => .dropped
      | .gotoCounters => .counters
      | .jumpGlobalAlert | .tcpmss | .ct _ => traverse p rs
      | .ret | .masquerade => .escaped
    else traverse p rs

section

variable {p : Packet} {r : Rule} (rs : List Rule)

theorem traverse_gotoCounters (h : r.isMatch p) (ht : r.target = .gotoCounters) :
    traverse p (r :: rs) = .counters := by
  rw [traverse, if_pos h, ht]

end

namespace Rule

/-- `-j DROP`, at the end of the forwarding chain. -/
def dropAll : Rule := { target := .drop }

def globalAlert : Rule := { target := .jumpGlobalAlert }

/-- What leaves the upstream interface gets its address. -/
def masquerade (extIface : String) : Rule := { outIface := some extIface, target := .masquerade }

/-- Packets from upstream, of connections that exist. -/
def established (intIface extIface : String) : Rule :=
  { inIface := some extIface, outIface := some intIface, state := [.established, .related],
    target := .gotoCounters }

/-- Packets from downstream without a connection are dropped. -/
def invalid (intIface extIface : String) : Rule :=
  { inIface := some intIface, outIface := some extIface, state := [.invalid], target := .drop }

/-- All other packets from downstream. -/
def outgoing (intIface extIface : String) : Rule :=
  { inIface := some intIface, outIface := some extIface, target := .gotoCounters }

/-- The rules for a pair, as they are in `LOCAL_FORWARD`. -/
def ofPair (intIface extIface : String) : List Rule :=
  [established intIface extIface, invalid intIface extIface, outgoing intIface extIface]

/-- `-p tcp --dport 21 -i ... -j CT --helper ftp` and the rule for `pptp` -/
def helper (intIface : String) (port : Nat) (h : Helper) : Rule :=
  { inIface := some intIface, matching := some (.tcpDport port), target := .ct h }

/-- The rules for FTP and PPTP. -/
def helpers (intIface : String) : List Rule := [helper intIface 21 .ftp, helper intIface 1723 .pptp]

/-- Packets from downstream are dropped if their source is not reached through that interface. -/
def rpfilter (intIface : String) : Rule :=
  { inIface := some intIface, matching := some .rpfilterInvert, target := .drop }

/-- Count the bytes from one interface to another. -/
def tetherCounting (if1 if2 : String) : Rule :=
  { inIface := some if1, outIface := some if2, target := .ret }

def mssRewrite : Rule := { matching := some .tcpSyn, target := .tcpmss }

/-- IPv6 tethering goes to the counters without a condition. -/
def ipv6Counters : Rule := { target := .gotoCounters }

end Rule

/-! ## State -/

/-- A downstream interface of an upstream one, which stays in the list when it is disabled. -/
structure ForwardingDownstream where
  iface : String
  active : Bool
  deriving DecidableEq

/-- `mFwdIfaces`, upstream interfaces with downstream interfaces. -/
abbrev FwdIfaces := List (String × ForwardingDownstream)

abbrev Command := List (List (Chain × ChainEdit Rule))

structure State where
  tables : Iptables Chain Rule
  mFwdIfaces : FwdIfaces

namespace FwdIfaces

/-- The entry is that of a pair. -/
def isFor (intIface extIface : String) (e : String × ForwardingDownstream) : Bool :=
  e.1 = extIface ∧ e.2.iface = intIface

/-- The entry of a pair. -/
def findForwardingDownstream (fwd : FwdIfaces) (intIface extIface : String) :
    Option ForwardingDownstream :=
  (fwd.find? (isFor intIface extIface)).map Prod.snd

/-- Write to the entry that `findForwardingDownstream` finds. -/
def setActive (intIface extIface : String) (active : Bool) : FwdIfaces → FwdIfaces
  | [] => []
  | e :: es =>
    if isFor intIface extIface e then (e.1, { e.2 with active }) :: es
    else e :: setActive intIface extIface active es

/-- A pair becomes active. Its entry is used again if there is one. -/
def addForwardingPair (intIface extIface : String) (fwd : FwdIfaces) : FwdIfaces :=
  if (fwd.findForwardingDownstream intIface extIface).isSome then
    fwd.setActive intIface extIface true
  else fwd ++ [(extIface, ⟨intIface, true⟩)]

/-- A pair is not active any more. Its entry stays. -/
def markForwardingPairDisabled (intIface extIface : String) (fwd : FwdIfaces) : FwdIfaces :=
  fwd.setActive intIface extIface false

def isForwardingPairEnabled (fwd : FwdIfaces) (intIface extIface : String) : Bool :=
  match fwd.findForwardingDownstream intIface extIface with
  | some d => d.active
  | none => false

/-- Some pair of the upstream interface is active. -/
def isAnyForwardingEnabledOnUpstream (fwd : FwdIfaces) (extIface : String) : Bool :=
  fwd.any fun e => e.1 = extIface ∧ e.2.active

def isAnyForwardingPairEnabled (fwd : FwdIfaces) : Bool := fwd.any fun e => e.2.active

/-- The pair has been enabled before, in either direction. -/
def tetherCountingRuleExists (fwd : FwdIfaces) (iface1 iface2 : String) : Bool :=
  (fwd.findForwardingDownstream iface1 iface2).isSome ||
    (fwd.findForwardingDownstream iface2 iface1).isSome

end FwdIfaces

/-! ## Commands -/

namespace State

def iptablesRestore (target : IptablesTarget) (cmd : Command) (s : State) : State × Int :=
  let r := s.tables.execIptablesRestore target cmd
  ({ s with tables := r.1 }, r.2)

/-- The state without forwarding: packets are dropped, and nothing is rewritten. -/
def setDefaults (s : State) : State × Int :=
  let (s, res) := s.iptablesRestore .v4
    [[(.localForward, .flush), (.localForward, .append .dropAll)], [(.localNatPostrouting, .flush)]]
  if res < 0 then (s, res)
  else
    let (s, res) := s.iptablesRestore .v6
      [[(.localForward, .flush)], [(.localRawPrerouting, .flush)]]
    if res < 0 then (s, res) else (s, 0)

/-- What netd sets up when it starts. -/
def setupIptablesHooks (s : State) : State × Int :=
  let (s, res) := s.setDefaults
  if res < 0 then (s, res)
  else
    let (s, res) := s.iptablesRestore .v4 [[(.localMangleForward, .append .mssRewrite)]]
    if res < 0 then (s, res)
    else
      let (s, res) := s.iptablesRestore .v4v6 [[(.localTetherCounters, .flush)]]
      if res < 0 then (s, res) else ({ s with mFwdIfaces := [] }, 0)

def setupIPv6CountersChain (s : State) : State × Int :=
  if s.mFwdIfaces.isAnyForwardingPairEnabled then (s, 0)
  else s.iptablesRestore .v6 [[(.localForward, .append .ipv6Counters)]]

def setTetherGlobalAlertRule (s : State) : State × Int :=
  if s.mFwdIfaces.isAnyForwardingPairEnabled then (s, 0)
  else s.iptablesRestore .v4v6 [[(.localForward, .insert .globalAlert)]]

/-- `enableNat` for the first pair of an upstream interface, up to the first command that fails. -/
def prepareUpstream (extIface : String) (s : State) : State × Int :=
  if s.mFwdIfaces.isAnyForwardingEnabledOnUpstream extIface then (s, 0)
  else
    let (s, res) := s.iptablesRestore .v4 [[(.localNatPostrouting, .append (.masquerade extIface))]]
    if res ≠ 0 then (s, res)
    else
      let (s, res) := s.setupIPv6CountersChain
      if res ≠ 0 then (s, res) else s.setTetherGlobalAlertRule

/-- The `v4` of `setForwardRules`. -/
def forwardCommand (add : Bool) (intIface extIface : String) (fwd : FwdIfaces) : Command :=
  let op := if add then ChainEdit.append else ChainEdit.delete
  [(Rule.helpers intIface).map fun r => (.localRawPrerouting, op r),
    ((Rule.ofPair intIface extIface).map fun r => (.localForward, op r)) ++
      (if add && !fwd.tetherCountingRuleExists intIface extIface then
        [(.localTetherCounters, .append (.tetherCounting intIface extIface)),
          (.localTetherCounters, .append (.tetherCounting extIface intIface))]
      else []) ++
      (if add then
        [(.localForward, .delete .dropAll), (.localForward, .append .dropAll)]
      else [])]

/-- The `v6` of `setForwardRules`. -/
def forwardCommandV6 (intIface extIface : String) (fwd : FwdIfaces) : Command :=
  [if !fwd.tetherCountingRuleExists intIface extIface then
      [(.localTetherCounters, .append (.tetherCounting intIface extIface)),
        (.localTetherCounters, .append (.tetherCounting extIface intIface))]
    else []]

/-- The result of the first command, for the reverse path filter, makes no difference. -/
def setRpfilter (op : Rule → ChainEdit Rule) (intIface : String) (s : State) : State :=
  (s.iptablesRestore .v6 [[(.localRawPrerouting, op (.rpfilter intIface))]]).1

/-- `setForwardRules(false, intIface, extIface)` -/
def removeForwardRules (intIface extIface : String) (s : State) : State × Int :=
  let s := s.setRpfilter .delete intIface
  let (s, res) := s.iptablesRestore .v4 (forwardCommand false intIface extIface s.mFwdIfaces)
  if res = -1 then (s, -Errno.eremoteio)
  else ({ s with mFwdIfaces := s.mFwdIfaces.markForwardingPairDisabled intIface extIface }, 0)

/-- `setForwardRules(true, intIface, extIface)` -/
def addForwardRules (intIface extIface : String) (s : State) : State × Int :=
  let s := s.setRpfilter .append intIface
  let (s, res) := s.iptablesRestore .v4 (forwardCommand true intIface extIface s.mFwdIfaces)
  if res = -1 then ((s.removeForwardRules intIface extIface).1, -Errno.eremoteio)
  else
    let (s, res) := s.iptablesRestore .v6 (forwardCommandV6 intIface extIface s.mFwdIfaces)
    if res = -1 then ((s.removeForwardRules intIface extIface).1, -Errno.eremoteio)
    else ({ s with mFwdIfaces := s.mFwdIfaces.addForwardingPair intIface extIface }, 0)

/-- Reset the chains when there is no pair. -/
def setDefaultsIfIdle (s : State) : State :=
  if s.mFwdIfaces.isAnyForwardingPairEnabled then s else s.setDefaults.1

/-- `prepareUpstream`, and then the rules of the pair. If that fails and no pair is active, the
defaults are set again. -/
def enableNat (intIface extIface : String) (s : State) : State × Int :=
  if !isIfaceName intIface || !isIfaceName extIface then (s, -Errno.enodev)
  else if intIface = extIface then (s, -Errno.einval)
  else if s.mFwdIfaces.isForwardingPairEnabled intIface extIface then (s, 0)
  else
    let (s, res) := s.prepareUpstream extIface
    if res ≠ 0 then (s.setDefaultsIfIdle, -Errno.eremoteio)
    else
      let (s, res) := s.addForwardRules intIface extIface
      if res ≠ 0 then (s.setDefaultsIfIdle, -Errno.enodev) else (s, 0)

/-- The defaults are set again when no pair is left. -/
def disableNat (intIface extIface : String) (s : State) : State × Int :=
  if !isIfaceName intIface || !isIfaceName extIface then (s, -Errno.enodev)
  else ((s.removeForwardRules intIface extIface).1.setDefaultsIfIdle, 0)

def rules (s : State) : Chains Chain Rule := s.tables.v4

/-- Forwarding between the interfaces is enabled. -/
def Active (s : State) (intIface extIface : String) : Prop :=
  s.mFwdIfaces.isForwardingPairEnabled intIface extIface

end State

/-- The calls that change the rules of forwarding. -/
inductive Call where
  | enableNat (intIface extIface : String)
  | disableNat (intIface extIface : String)

def Call.run : Call → State → State × Int
  | .enableNat intIface extIface, s => s.enableNat intIface extIface
  | .disableNat intIface extIface, s => s.disableNat intIface extIface

def step (c : Call) (s : State) : Option State := some (c.run s).1

/-- The controller after `setupIptablesHooks`, with any rules before it. -/
def init (tables : Iptables Chain Rule) (fwd : FwdIfaces) : State :=
  (State.setupIptablesHooks ⟨tables, fwd⟩).1

/-! ## The pairs -/

namespace FwdIfaces

variable {fwd : FwdIfaces} {a x : String}

/-- Every pair has one entry. -/
def Keyed (fwd : FwdIfaces) : Prop := (fwd.map fun e => (e.1, e.2.iface)).Nodup

theorem map_key_setActive (a x : String) (b : Bool) (fwd : FwdIfaces) :
    (fwd.setActive a x b).map (fun e => (e.1, e.2.iface)) = fwd.map fun e => (e.1, e.2.iface) := by
  induction fwd with
  | nil => rfl
  | cons e es ih =>
    rw [setActive]
    split
    · rfl
    · simp [ih]

section

variable (h : Keyed fwd)
include h

theorem keyed_markForwardingPairDisabled (a x : String) :
    Keyed (fwd.markForwardingPairDisabled a x) := by
  rw [Keyed, markForwardingPairDisabled, map_key_setActive]
  exact h

theorem keyed_addForwardingPair (a x : String) : Keyed (fwd.addForwardingPair a x) := by
  rw [addForwardingPair]
  split
  · rw [Keyed, map_key_setActive]
    exact h
  rename_i hnone
  have hnone : fwd.find? (isFor a x) = none := by
    simpa [findForwardingDownstream] using hnone
  rw [Keyed, map_append, nodup_append]
  refine ⟨h, by simp, ?_⟩
  intro k hk k' hk' heq
  obtain ⟨e, he, rfl⟩ := mem_map.mp hk
  have hkey : (e.1, e.2.iface) = (x, a) := by simpa using heq.trans (mem_singleton.mp hk')
  have habsent := List.find?_eq_none.mp hnone e he
  simp only [Prod.mk.injEq] at hkey
  simp [isFor, hkey] at habsent

theorem isForwardingPairEnabled_iff : fwd.isForwardingPairEnabled a x ↔ (x, ⟨a, true⟩) ∈ fwd := by
  induction fwd with
  | nil => simp [isForwardingPairEnabled, findForwardingDownstream]
  | cons e es ih =>
    obtain ⟨y, c, b⟩ := e
    obtain ⟨hhead, htail⟩ := nodup_cons.mp h
    by_cases hfor : y = x ∧ c = a
    · obtain ⟨rfl, rfl⟩ := hfor
      have hnot : (y, (⟨c, true⟩ : ForwardingDownstream)) ∉ es := by
        intro hmem
        exact hhead (mem_map.mpr ⟨_, hmem, rfl⟩)
      cases b <;> simp [isForwardingPairEnabled, findForwardingDownstream, isFor, hnot]
    · have hskip : isFor a x (y, ⟨c, b⟩) = false := by simpa [isFor] using hfor
      have hne : ¬(x = y ∧ a = c) := fun hxa => hfor ⟨hxa.1.symm, hxa.2.symm⟩
      have ih := ih htail
      simp only [isForwardingPairEnabled, findForwardingDownstream, List.find?_cons, hskip,
        mem_cons, Prod.mk.injEq, ForwardingDownstream.mk.injEq] at ih ⊢
      rw [ih]
      constructor
      · exact .inr
      · rintro (⟨rfl, rfl, -⟩ | hmem)
        · exact absurd ⟨rfl, rfl⟩ hne
        · exact hmem

theorem isAnyForwardingEnabledOnUpstream_iff :
    fwd.isAnyForwardingEnabledOnUpstream x ↔ ∃ a, fwd.isForwardingPairEnabled a x := by
  simp only [isForwardingPairEnabled_iff h, isAnyForwardingEnabledOnUpstream, any_eq_true,
    decide_eq_true_eq]
  constructor
  · rintro ⟨⟨y, c, b⟩, hmem, rfl, hb⟩
    subst hb
    exact ⟨c, hmem⟩
  · rintro ⟨a, hmem⟩
    exact ⟨_, hmem, rfl, rfl⟩

theorem isAnyForwardingPairEnabled_iff :
    fwd.isAnyForwardingPairEnabled ↔ ∃ a x, fwd.isForwardingPairEnabled a x := by
  simp only [isForwardingPairEnabled_iff h, isAnyForwardingPairEnabled, any_eq_true]
  constructor
  · rintro ⟨⟨y, c, b⟩, hmem, hb⟩
    subst hb
    exact ⟨c, y, hmem⟩
  · rintro ⟨a, x, hmem⟩
    exact ⟨_, hmem, rfl⟩

end

theorem isForwardingPairEnabled_setActive (b : Bool) (c y : String)
    (h : (fwd.findForwardingDownstream a x).isSome) :
    (fwd.setActive a x b).isForwardingPairEnabled c y =
      if c = a ∧ y = x then b else fwd.isForwardingPairEnabled c y := by
  induction fwd with
  | nil => cases h
  | cons e es ih =>
    obtain ⟨z, d, b'⟩ := e
    by_cases hfor : isFor a x (z, ⟨d, b'⟩)
    · rw [setActive, if_pos hfor]
      obtain ⟨rfl, rfl⟩ : z = x ∧ d = a := by simpa [isFor] using hfor
      by_cases hcy : c = d ∧ y = z
      · obtain ⟨rfl, rfl⟩ := hcy
        simp [isForwardingPairEnabled, findForwardingDownstream, isFor]
      have hskip : ∀ b, isFor c y (z, ⟨d, b⟩) = false := by
        intro b
        simp only [isFor, decide_eq_false_iff_not]
        exact fun heq => hcy ⟨heq.2.symm, heq.1.symm⟩
      rw [if_neg hcy]
      simp [isForwardingPairEnabled, findForwardingDownstream, hskip]
    · have h' : (findForwardingDownstream es a x).isSome := by
        simpa [findForwardingDownstream, hfor] using h
      have ih := ih h'
      rw [setActive, if_neg hfor]
      by_cases hcy : isFor c y (z, ⟨d, b'⟩)
      · have hne : ¬(c = a ∧ y = x) := by
          rintro ⟨rfl, rfl⟩
          exact hfor hcy
        rw [if_neg hne]
        simp [isForwardingPairEnabled, findForwardingDownstream, hcy]
      · simp only [isForwardingPairEnabled, findForwardingDownstream, List.find?_cons, hcy] at ih ⊢
        exact ih

theorem isForwardingPairEnabled_addForwardingPair (c y : String) :
    (fwd.addForwardingPair a x).isForwardingPairEnabled c y =
      if c = a ∧ y = x then true else fwd.isForwardingPairEnabled c y := by
  rw [addForwardingPair]
  split
  · next h => exact isForwardingPairEnabled_setActive true c y h
  rename_i h
  have hnone : fwd.find? (isFor a x) = none := by
    simpa [findForwardingDownstream] using h
  by_cases hcy : c = a ∧ y = x
  · obtain ⟨rfl, rfl⟩ := hcy
    simp [isForwardingPairEnabled, findForwardingDownstream, hnone, isFor]
  have hskip : isFor c y (x, ⟨a, true⟩) = false := by
    simp only [isFor, decide_eq_false_iff_not]
    exact fun heq => hcy ⟨heq.2.symm, heq.1.symm⟩
  rw [if_neg hcy]
  simp [isForwardingPairEnabled, findForwardingDownstream, hskip]

theorem isSome_of_isForwardingPairEnabled (h : fwd.isForwardingPairEnabled a x) :
    (fwd.findForwardingDownstream a x).isSome := by
  unfold isForwardingPairEnabled at h
  split at h
  · next hd => simp [hd]
  · cases h

theorem isForwardingPairEnabled_markForwardingPairDisabled (h : fwd.isForwardingPairEnabled a x)
    (c y : String) :
    (fwd.markForwardingPairDisabled a x).isForwardingPairEnabled c y =
      if c = a ∧ y = x then false else fwd.isForwardingPairEnabled c y :=
  isForwardingPairEnabled_setActive false c y (isSome_of_isForwardingPairEnabled h)

end FwdIfaces

end Netd.Tether
