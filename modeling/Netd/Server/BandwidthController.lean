import Netd.Lib.Lts
import Netd.Lib.RuleTable
import Netd.Server.NetdConstants

/-!
# BandwidthController

Quotas and alerts are `quota2` rules with a named counter. A quota is shared by interfaces that
jump to one chain, or is an interface's own. A counter is made with the `--quota` of the first rule
that names it, and it goes away with the last of them. A write to its file under
`/proc/net/xt_quota` sets it.
-/

namespace Netd.Bandwidth

open RuleTable Errno

/-- The chains `bw_INPUT`, `bw_OUTPUT`, `bw_FORWARD`, `bw_penalty_box` and `bw_costly_<cost>`. -/
inductive Chain where
  | bwInput
  | bwOutput
  | bwForward
  | bwPenaltyBox
  | costly (cost : String)
  deriving DecidableEq

/-- The rules, without the value of `--quota`, which deletions ignore. -/
inductive Rule where
  /-- `-i <iface> --jump bw_costly_<cost>` -/
  | jumpIn (iface cost : String)
  /-- `-o <iface> --jump bw_costly_<cost>` -/
  | jumpOut (iface cost : String)
  /-- `-j bw_penalty_box` -/
  | penaltyBox
  /-- `-m quota2 ! --quota <bytes> --name <name> --jump REJECT` -/
  | quota (name : String)
  /-- `-m quota2 ! --quota <bytes> --name <name>` -/
  | alert (name : String)
  /-- Another rule, without a counter and without a jump to a chain of a quota. -/
  | fixed
  deriving DecidableEq

/-- The chain a rule jumps to. -/
def Rule.target : Rule → Option Chain
  | .jumpIn _ cost | .jumpOut _ cost => some (.costly cost)
  | .penaltyBox => some .bwPenaltyBox
  | .quota _ | .alert _ | .fixed => none

/-- The counter a rule names. -/
def Rule.counter : Rule → Option String
  | .quota name | .alert name => some name
  | .jumpIn _ _ | .jumpOut _ _ | .penaltyBox | .fixed => none

/-! ## The kernel -/

/-- The tables of both families and the counters that their rules name. -/
structure Kernel where
  v4 : Table Chain Rule
  v6 : Table Chain Rule
  counters : String → Option Int

namespace Kernel

/-- Some rule names the counter. -/
def refers (k : Kernel) (name : String) : Bool :=
  (k.v4.rules ++ k.v6.rules).any fun x => x.rule.counter = some name

/-- The counters after a table was replaced. `quotas` has the values of `--quota`. -/
def settle (quotas : List (String × Int)) (k : Kernel) : Kernel :=
  { k with
    counters := fun name =>
      if k.refers name then (k.counters name).or (quotas.lookup name) else none }

/-- The counter after a write to its file. -/
def setCounter (name : String) (bytes : Int) (k : Kernel) : Kernel :=
  { k with counters := Function.update k.counters name (some bytes) }

end Kernel

/-- A section for the filter table: its lines, and the value of `--quota` for each name in it. -/
structure Section where
  lines : List (Line Chain Rule)
  quotas : List (String × Int)

/-- The command fails in a family for a reason other than its lines. -/
structure Outcome where
  v4 : Bool
  v6 : Bool
  deriving DecidableEq

def restoreTable (lines : List (Line Chain Rule)) (fails : Bool) (t : Table Chain Rule) :
    Option (Table Chain Rule) :=
  if fails then none else commit Rule.target lines t

namespace Kernel

def restoreV4 (sec : Section) (fails : Bool) (k : Kernel) : Kernel × Bool :=
  match restoreTable sec.lines fails k.v4 with
  | some t => (settle sec.quotas { k with v4 := t }, true)
  | none => (k, false)

def restoreV6 (sec : Section) (fails : Bool) (k : Kernel) : Kernel × Bool :=
  match restoreTable sec.lines fails k.v6 with
  | some t => (settle sec.quotas { k with v6 := t }, true)
  | none => (k, false)

/-- `iptablesRestoreFunction(V4V6, ...)` -/
def iptablesRestore (sec : Section) (o : Outcome) (k : Kernel) : Kernel × Int :=
  let r4 := k.restoreV4 sec o.v4
  let r6 := r4.1.restoreV6 sec o.v6
  (r6.1, if r4.2 && r6.2 then 0 else -1)

end Kernel

/-! ## The controller -/

/-- The quota and the alert of an interface. -/
structure QuotaInfo where
  quota : Int
  alert : Int
  deriving DecidableEq

/-- The kernel, and what the controller has recorded. -/
structure State where
  mSharedQuotaBytes : Int
  mSharedAlertBytes : Int
  mGlobalAlertBytes : Int
  mQuotaIfaces : String → Option QuotaInfo
  mSharedQuotaIfaces : Finset String
  kernel : Kernel

/-- What happens to a call, which uses at most one command about quotas, one about an alert, and one
file. -/
structure Env where
  quotaRules : Outcome
  alertRule : Outcome
  /-- The `errno` of an `fopen` that fails although the file is there. -/
  fopen : Option Nat
  fprintf : Bool
  deriving DecidableEq

def sharedCost : String := "shared"

def alertName (cost : String) : String := cost ++ "Alert"

/-- The file of a counter is there as long as the counter is. -/
def Kernel.updateQuota (env : Env) (quotaName : String) (bytes : Int) (k : Kernel) : Kernel × Int :=
  if !isIfaceName quotaName then (k, -einval)
  else
    match k.counters quotaName, env.fopen with
    | none, _ => (k, -enoent)
    | some _, some errno => (k, -(errno : Int))
    | some _, none =>
      if env.fprintf then (k, 0)
      else (k.setCounter quotaName bytes, 0)

/-- The jumps of an interface to the chain of its quota. `-I` counts positions from one. -/
def addJumps (ruleInsertPos : Nat) (iface cost : String) : List (Line Chain Rule) :=
  [.insert .bwInput (ruleInsertPos - 1) (.jumpIn iface cost),
    .insert .bwOutput (ruleInsertPos - 1) (.jumpOut iface cost),
    .append .bwForward (.jumpIn iface cost), .append .bwForward (.jumpOut iface cost)]

def deleteJumps (iface cost : String) : List (Line Chain Rule) :=
  [.delete .bwInput (.jumpIn iface cost), .delete .bwOutput (.jumpOut iface cost),
    .delete .bwForward (.jumpIn iface cost), .delete .bwForward (.jumpOut iface cost)]

/-- `removeCostlyAlert`, with the kernel, the new `*alertBytes` and the result. -/
def Kernel.removeCostlyAlert (env : Env) (costName : String) (alertBytes : Int) (k : Kernel) :
    Kernel × Int × Int :=
  if !isIfaceName costName then (k, alertBytes, -einval)
  else if alertBytes = 0 then (k, alertBytes, -enoent)
  else
    let r := k.iptablesRestore
      ⟨[.delete (.costly costName) (.alert (alertName costName))], []⟩ env.alertRule
    if r.2 ≠ 0 then (r.1, alertBytes, -eremoteio) else (r.1, 0, 0)

/-- `setCostlyAlert`, with the kernel, the new `*alertBytes` and the result. -/
def Kernel.setCostlyAlert (env : Env) (costName : String) (bytes alertBytes : Int) (k : Kernel) :
    Kernel × Int × Int :=
  if !isIfaceName costName then (k, alertBytes, -einval)
  else if bytes = 0 then (k, alertBytes, -erange)
  else
    let r :=
      if alertBytes ≠ 0 then k.updateQuota env (alertName costName) alertBytes
      else
        let r := k.iptablesRestore ⟨[.append (.costly costName) (.alert (alertName costName))],
          [(alertName costName, bytes)]⟩ env.alertRule
        (r.1, if r.2 ≠ 0 then -eremoteio else 0)
    (r.1, if r.2 = 0 then bytes else alertBytes, r.2)

namespace State

def ruleInsertPos (s : State) : Nat := if s.mGlobalAlertBytes ≠ 0 then 2 else 1

def setSharedAlert (env : Env) (bytes : Int) (s : State) : State × Int :=
  if s.mSharedQuotaBytes = 0 then (s, -1)
  else if bytes = 0 then (s, -1)
  else
    let r := s.kernel.setCostlyAlert env sharedCost bytes s.mSharedAlertBytes
    ({ s with kernel := r.1, mSharedAlertBytes := r.2.1 }, r.2.2)

def removeSharedAlert (env : Env) (s : State) : State × Int :=
  let r := s.kernel.removeCostlyAlert env sharedCost s.mSharedAlertBytes
  ({ s with kernel := r.1, mSharedAlertBytes := r.2.1 }, r.2.2)

/-- The entry of an interface in `mQuotaIfaces`. -/
def setQuotaIface (iface : String) (info : Option QuotaInfo) (s : State) : State :=
  { s with mQuotaIfaces := Function.update s.mQuotaIfaces iface info }

def setInterfaceAlert (env : Env) (iface : String) (bytes : Int) (s : State) : State × Int :=
  if !isIfaceName iface then (s, -einval)
  else if bytes = 0 then (s, -erange)
  else
    match s.mQuotaIfaces iface with
    | none => (s, -enoent)
    | some info =>
      let r := s.kernel.setCostlyAlert env iface bytes info.alert
      ({ s with kernel := r.1 }.setQuotaIface iface (some { info with alert := r.2.1 }), r.2.2)

def removeInterfaceAlert (env : Env) (iface : String) (s : State) : State × Int :=
  if !isIfaceName iface then (s, -einval)
  else
    match s.mQuotaIfaces iface with
    | none => (s, -enoent)
    | some info =>
      let r := s.kernel.removeCostlyAlert env iface info.alert
      ({ s with kernel := r.1 }.setQuotaIface iface (some { info with alert := r.2.1 }), r.2.2)

/-- The commands that make an interface share the quota. -/
def shareSection (iface : String) (maxBytes : Int) (s : State) : Section :=
  ⟨addJumps s.ruleInsertPos iface sharedCost ++
      if s.mSharedQuotaIfaces = ∅ then [.insert (.costly sharedCost) 0 (.quota sharedCost)] else [],
    if s.mSharedQuotaIfaces = ∅ then [(sharedCost, maxBytes)] else []⟩

/-- The commands that end it. -/
def unshareSection (iface : String) (s : State) : Section :=
  ⟨deleteJumps iface sharedCost ++
      if s.mSharedQuotaIfaces.card = 1 then [.delete (.costly sharedCost) (.quota sharedCost)]
      else [],
    []⟩

def removeInterfaceSharedQuota (env : Env) (iface : String) (s : State) : State × Int :=
  if !isIfaceName iface then (s, -1)
  else if iface ∉ s.mSharedQuotaIfaces then (s, -1)
  else
    let r := s.kernel.iptablesRestore (s.unshareSection iface) env.quotaRules
    if r.2 ≠ 0 then ({ s with kernel := r.1 }, -1)
    else
      let s : State :=
        { s with kernel := r.1, mSharedQuotaIfaces := s.mSharedQuotaIfaces.erase iface }
      if s.mSharedQuotaIfaces = ∅ then
        let s : State := { s with mSharedQuotaBytes := 0 }
        if s.mSharedAlertBytes ≠ 0 then
          let r := s.removeSharedAlert env
          (if r.2 = 0 then { r.1 with mSharedAlertBytes := 0 } else r.1, r.2)
        else (s, 0)
      else (s, 0)

/-- The end of `setInterfaceSharedQuota`, for an interface that shares the quota. -/
def updateSharedQuota (env : Env) (iface : String) (maxBytes : Int) (s : State) : State × Int :=
  if maxBytes ≠ s.mSharedQuotaBytes then
    let r := s.kernel.updateQuota env sharedCost maxBytes
    if r.2 ≠ 0 then (({ s with kernel := r.1 }.removeInterfaceSharedQuota env iface).1, -1)
    else ({ s with kernel := r.1, mSharedQuotaBytes := maxBytes }, 0)
  else (s, 0)

/-- Share the quota or change it. -1 stands for no quota. -/
def setInterfaceSharedQuota (env : Env) (iface : String) (maxBytes : Int) (s : State) :
    State × Int :=
  if maxBytes = 0 then (s, -1)
  else if !isIfaceName iface then (s, -1)
  else if maxBytes = -1 then s.removeInterfaceSharedQuota env iface
  else if iface ∈ s.mSharedQuotaIfaces then s.updateSharedQuota env iface maxBytes
  else
    let r := s.kernel.iptablesRestore (s.shareSection iface maxBytes) env.quotaRules
    if r.2 ≠ 0 then (({ s with kernel := r.1 }.removeInterfaceSharedQuota env iface).1, -1)
    else
      State.updateSharedQuota env iface maxBytes
        { s with
          kernel := r.1
          mSharedQuotaBytes := maxBytes
          mSharedQuotaIfaces := insert iface s.mSharedQuotaIfaces }

/-- The commands that give an interface a quota. -/
def quotaSection (iface : String) (maxBytes : Int) (s : State) : Section :=
  ⟨[.declare (.costly iface), .append (.costly iface) .penaltyBox] ++
      addJumps s.ruleInsertPos iface iface ++ [.append (.costly iface) (.quota iface)],
    [(iface, maxBytes)]⟩

/-- The commands that take it away. -/
def unquotaSection (iface : String) : Section :=
  ⟨deleteJumps iface iface ++ [.flush (.costly iface), .remove (.costly iface)], []⟩

def removeInterfaceQuota (env : Env) (iface : String) (s : State) : State × Int :=
  if !isIfaceName iface then (s, -einval)
  else
    match s.mQuotaIfaces iface with
    | none => (s, -enodev)
    | some _ =>
      let r := s.kernel.iptablesRestore (unquotaSection iface) env.quotaRules
      if r.2 = 0 then ({ s with kernel := r.1 }.setQuotaIface iface none, 0)
      else ({ s with kernel := r.1 }, -eremoteio)

/-- A quota of its own. -1 stands for no quota. -/
def setInterfaceQuota (env : Env) (iface : String) (maxBytes : Int) (s : State) : State × Int :=
  if !isIfaceName iface then (s, -einval)
  else if maxBytes = 0 then (s, -erange)
  else if maxBytes = -1 then s.removeInterfaceQuota env iface
  else
    match s.mQuotaIfaces iface with
    | some info =>
      let r := s.kernel.updateQuota env iface maxBytes
      if r.2 ≠ 0 then (({ s with kernel := r.1 }.removeInterfaceQuota env iface).1, r.2)
      else ({ s with kernel := r.1 }.setQuotaIface iface (some { info with quota := maxBytes }), 0)
    | none =>
      let r := s.kernel.iptablesRestore (s.quotaSection iface maxBytes) env.quotaRules
      if r.2 ≠ 0 then
        (({ s with kernel := r.1 }.removeInterfaceQuota env iface).1, -eremoteio)
      else ({ s with kernel := r.1 }.setQuotaIface iface (some ⟨maxBytes, 0⟩), 0)

end State

inductive Call where
  | setInterfaceSharedQuota (iface : String) (maxBytes : Int)
  | removeInterfaceSharedQuota (iface : String)
  | setInterfaceQuota (iface : String) (maxBytes : Int)
  | removeInterfaceQuota (iface : String)
  | setSharedAlert (bytes : Int)
  | removeSharedAlert
  | setInterfaceAlert (iface : String) (bytes : Int)
  | removeInterfaceAlert (iface : String)

def Call.run (env : Env) (s : State) : Call → State × Int
  | .setInterfaceSharedQuota iface maxBytes => s.setInterfaceSharedQuota env iface maxBytes
  | .removeInterfaceSharedQuota iface => s.removeInterfaceSharedQuota env iface
  | .setInterfaceQuota iface maxBytes => s.setInterfaceQuota env iface maxBytes
  | .removeInterfaceQuota iface => s.removeInterfaceQuota env iface
  | .setSharedAlert bytes => s.setSharedAlert env bytes
  | .removeSharedAlert => s.removeSharedAlert env
  | .setInterfaceAlert iface bytes => s.setInterfaceAlert env iface bytes
  | .removeInterfaceAlert iface => s.removeInterfaceAlert env iface

/-- A call, and what happens to it. -/
structure Event where
  call : Call
  env : Env

def step (e : Event) (s : State) : Option State := some (e.call.run e.env s).1

end Netd.Bandwidth
